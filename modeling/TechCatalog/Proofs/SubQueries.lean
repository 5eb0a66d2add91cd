import TechCatalog.Proofs.NamedTables

/-!
# Statements and the sub-queries in them

A sub-query stands in parentheses and begins with a word of its own. `Statement.parts` reads a
statement from left to right and takes its sub-queries out, so that what is left names only the
tables and columns of the statement itself. A part is `Joined` when it takes its rows from one
table, joins every other table to it, and names no columns but those of its tables.
-/

namespace TechCatalog.Query

open Store

/-- Whether a piece opens a query. -/
def Piece.opensQuery : Piece → Bool
  | .words w => "SELECT ".toList.isPrefixOf w.toList
  | _ => false

/-- How often a character stands among the words of a piece. -/
def Piece.count (mark : Char) : Piece → Nat
  | .words w => w.toList.count mark
  | _ => 0

/-- The parts of a statement. -/
structure Parts where
  /-- What stands outside the sub-queries. -/
  outer : Statement := []
  /-- The sub-queries. -/
  inner : List Statement := []

/-- Parts of one stretch of a statement before those of the next. -/
def Parts.append (x y : Parts) : Parts :=
  ⟨x.outer ++ y.outer, x.inner ++ y.inner⟩

/-- Takes the sub-queries out of a statement. A sub-query ends before the piece that closes more
parentheses than are open in it. While one is read it is kept with the number of its open
parentheses. -/
def partsFrom : Option (Statement × Nat) → Statement → Parts
  | none, [] => {}
  | some (q, _), [] => { inner := [q] }
  | none, p :: s =>
    if p.opensQuery then partsFrom (some ([p], p.count '(' - p.count ')')) s
    else Parts.append ⟨[p], []⟩ (partsFrom none s)
  | some (q, depth), p :: s =>
    if depth + p.count '(' < p.count ')' then Parts.append ⟨[p], [q]⟩ (partsFrom none s)
    else partsFrom (some (q ++ [p], depth + p.count '(' - p.count ')')) s

/-- The parts of a statement. What it begins with opens the statement itself. -/
def Statement.parts : Statement → Parts
  | [] => {}
  | p :: s => Parts.append ⟨[p], []⟩ (partsFrom none s)

/-- A table where a statement mentions it. -/
structure Mention where
  /-- The words right before the table. -/
  before : String
  table : Table
  /-- The name that the table is given, if it is given one. -/
  name : Option String

/-- The name under which columns of a mentioned table are found. -/
def Mention.known (m : Mention) : String :=
  m.name.getD m.table.name

/-- The tables that a statement mentions after some words. -/
def mentionsFrom : String → Statement → List Mention
  | _, [] => []
  | _, .words w :: s => mentionsFrom w s
  | before, .table t name :: s => ⟨before, t, name⟩ :: mentionsFrom "" s
  | _, _ :: s => mentionsFrom "" s

/-- The tables that a statement mentions. -/
def Statement.mentions (s : Statement) : List Mention :=
  mentionsFrom "" s

/-- The words that join a table to those before it. -/
def joinWords : List String := [" LEFT OUTER JOIN ", " JOIN "]

/-- A column belongs to one of some tables, by the name under which it is looked up. -/
def Piece.Known (ms : List Mention) : Piece → Prop
  | .column owner c => ∃ m ∈ ms, m.table = c.table ∧ m.known = owner
  | _ => True

/-- A part of a statement takes its rows from one table with every other table joined to it, and
names no columns but those of these tables. -/
structure Statement.Joined (s : Statement) : Prop where
  tables : ∃ first rest, s.mentions = first :: rest ∧ first.before = " FROM " ∧
    ∀ m ∈ rest, m.before ∈ joinWords
  columns : ∀ p ∈ s, p.Known s.mentions

/-- A piece names no table, and a column only under the name of its own table. -/
def Piece.Reads (P : Column → Prop) : Piece → Prop
  | .table _ _ => False
  | .column owner c => owner = c.table.name ∧ P c
  | _ => True

/-- The column that an operand is made of. -/
def Operand.source : Operand → Column
  | .column c => c
  | .lowered c => c

/-- The column that a test reads from the joined row. -/
def Test.column : Test → Column
  | .compare x _ _ => x.source
  | .like x _ => x.source
  | .among c _ => c
  | .owner _ => .ofDomain .id
  | .notOwner _ => .ofDomain .id

/-- A stretch of a statement has these parts, whatever follows it. -/
def Parted (s : Statement) (x : Parts) : Prop :=
  ∀ rest, partsFrom none (s ++ rest) = x.append (partsFrom none rest)

/-- Outside its sub-queries a stretch of a statement only reads some columns, and its sub-queries
are joined. -/
def ReadsOnly (P : Column → Prop) (s : Statement) : Prop :=
  ∃ x, Parted s x ∧ (∀ p ∈ x.outer, p.Reads P) ∧ ∀ q ∈ x.inner, q.Joined

section

variable {s t : Statement} {x y : Parts} {P Q : Column → Prop}

theorem Piece.Reads.mono (h : ∀ c, P c → Q c) {p : Piece} (hp : p.Reads P) : p.Reads Q := by
  cases p with
  | column owner c => exact ⟨hp.1, h c hp.2⟩
  | table t name => exact hp
  | words w => exact trivial
  | place label v => exact trivial
  | places label vs => exact trivial

/-- All tables that a statement names are mentioned, in the same order. -/
theorem map_mentionsFrom (before : String) (s : Statement) :
    (mentionsFrom before s).map (·.table) = s.tables := by
  fun_induction mentionsFrom before s with
  | case1 => rfl
  | case2 _ w s ih => exact ih
  | case3 before t name s ih => exact congrArg (t :: ·) ih
  | case4 _ p s hwords htable ih =>
    cases p with
    | words w => exact absurd rfl (hwords w)
    | table t name => exact absurd rfl (htable t name)
    | column owner c => exact ih
    | place label v => exact ih
    | places label vs => exact ih

theorem tables_of_reads (h : ∀ p ∈ s, p.Reads P) : Statement.tables s = [] := by
  rw [Statement.tables, List.filterMap_eq_nil_iff]
  intro p hp
  cases p with
  | table t name => exact absurd (h _ hp) id
  | words w => rfl
  | column owner c => rfl
  | place label v => rfl
  | places label vs => rfl

theorem mentionsFrom_of_reads (before : String) (h : ∀ p ∈ s, p.Reads P) :
    mentionsFrom before s = [] :=
  List.map_eq_nil_iff.mp ((map_mentionsFrom before s).trans (tables_of_reads h))

theorem mentionsFrom_append_words (h : ∀ p ∈ s, p.Reads P) (before w : String) (t : Statement) :
    mentionsFrom before (s ++ .words w :: t) = mentionsFrom w t := by
  induction s generalizing before with
  | nil => rfl
  | cons p s ih =>
    rw [List.forall_mem_cons] at h
    cases p with
    | table t name => exact absurd h.1 id
    | words v => exact ih h.2 v
    | column owner c => exact ih h.2 ""
    | place label v => exact ih h.2 ""
    | places label vs => exact ih h.2 ""

theorem Parts.append_assoc (x y z : Parts) : (x.append y).append z = x.append (y.append z) := by
  simp [append]

theorem Parted.append (hs : Parted s x) (ht : Parted t y) : Parted (s ++ t) (x.append y) := by
  intro rest
  rw [List.append_assoc, hs, ht, Parts.append_assoc]

/-- Where no piece opens a query there are no sub-queries. -/
theorem parted_plain (h : ∀ p ∈ s, p.opensQuery = false) : Parted s ⟨s, []⟩ := by
  intro rest
  induction s with
  | nil => rfl
  | cons p s ih =>
    rw [List.forall_mem_cons] at h
    rw [List.cons_append, partsFrom, if_neg (by simp [h.1]), ih h.2]
    rfl

theorem Parted.parts (h : Parted s x) (p : Piece) :
    Statement.parts (p :: s) = ⟨p :: x.outer, x.inner⟩ := by
  have hrest := h []
  rw [List.append_nil] at hrest
  simp [Statement.parts, hrest, Parts.append, partsFrom]

end

/-- How many parentheses are open after some pieces, if no more were closed than were open. -/
def depthAfter : Nat → Statement → Option Nat
  | depth, [] => some depth
  | depth, p :: s =>
    if depth + p.count '(' < p.count ')' then none
    else depthAfter (depth + p.count '(' - p.count ')') s

theorem partsFrom_of_depthAfter {s : Statement} {depth k : Nat} (h : depthAfter depth s = some k)
    (q rest : Statement) :
    partsFrom (some (q, depth)) (s ++ rest) = partsFrom (some (q ++ s, k)) rest := by
  -- What was read of the sub-query grows with every piece, and so may the depth.
  induction s generalizing q depth with
  | nil =>
    cases h
    rw [List.nil_append, List.append_nil]
  | cons p s ih =>
    rw [depthAfter] at h
    split at h
    · cases h
    · rename_i hopen
      rw [List.cons_append, partsFrom, if_neg hopen, ih h, List.append_assoc]
      rfl

/-- A sub-query ends where the parenthesis around it is closed. -/
theorem parted_subQuery {p close : Piece} {body : Statement} (hopens : p.opensQuery = true)
    (hdepth : depthAfter 0 (p :: body) = some 0) (hclose : close.count '(' < close.count ')') :
    Parted (p :: body ++ [close]) ⟨[close], [p :: body]⟩ := by
  intro rest
  rw [depthAfter, Nat.zero_add] at hdepth
  split at hdepth
  · cases hdepth
  · rw [List.append_assoc, List.cons_append, partsFrom, if_pos hopens,
      partsFrom_of_depthAfter hdepth, List.singleton_append, List.singleton_append, partsFrom,
      if_pos (by omega)]

theorem depthAfter_owners (o : Owners) (n : Numbering) : depthAfter 0 (o.pieces n).1 = some 0 := by
  cases o with
  | ofAny names => rfl
  | ofAll names => rfl
  | ofCategory category bound => cases bound <;> rfl

/-- The numbers of owners are found by a query. -/
theorem owners_eq_cons (o : Owners) (n : Numbering) :
    ∃ p body, (o.pieces n).1 = p :: body ∧ p.opensQuery = true := by
  cases o with
  | ofAny names => exact ⟨_, _, rfl, rfl⟩
  | ofAll names => exact ⟨_, _, rfl, rfl⟩
  | ofCategory category bound => exact ⟨_, _, rfl, rfl⟩

theorem known_countBound (b : CountBound) (ms : List Mention) : ∀ p ∈ b.pieces, p.Known ms := by
  cases b <;> simp [CountBound.pieces, Piece.Known]

/-- The query for the numbers of owners has its own tables. -/
theorem joined_owners (o : Owners) (n : Numbering) : Statement.Joined (o.pieces n).1 := by
  cases o with
  | ofAny names =>
    refine ⟨⟨_, _, rfl, rfl, List.forall_mem_nil _⟩, ?_⟩
    simp [Owners.pieces, Piece.Known, Statement.mentions, mentionsFrom, Mention.known, Column.table]
  | ofAll names =>
    refine ⟨⟨_, _, rfl, rfl, List.forall_mem_nil _⟩, ?_⟩
    simp [Owners.pieces, Piece.Known, Statement.mentions, mentionsFrom, Mention.known, Column.table]
  | ofCategory category bound =>
    have hmentions : Statement.mentions ((Owners.ofCategory category bound).pieces n).1 =
        [⟨" FROM ", .links, some (numberedName .links (n.links + 1))⟩,
          ⟨" JOIN ", .technologies, some (numberedName .technologies (n.technologies + 1))⟩] := by
      cases bound <;> rfl
    have hjoin : " JOIN " ∈ joinWords := by decide
    refine ⟨⟨_, _, hmentions, rfl, List.forall_mem_singleton.mpr hjoin⟩, ?_⟩
    rw [hmentions, Owners.pieces, List.forall_mem_append]
    refine ⟨?_, known_countBound bound _⟩
    simp [Piece.Known, Mention.known, Column.table]

section

variable {s t : Statement} {P Q : Column → Prop}

theorem ReadsOnly.mono (hs : ReadsOnly P s) (h : ∀ c, P c → Q c) : ReadsOnly Q s := by
  obtain ⟨x, hx, houter, hinner⟩ := hs
  exact ⟨x, hx, fun p hp => (houter p hp).mono h, hinner⟩

theorem ReadsOnly.append (hs : ReadsOnly P s) (ht : ReadsOnly P t) : ReadsOnly P (s ++ t) := by
  obtain ⟨x, hx, hxouter, hxinner⟩ := hs
  obtain ⟨y, hy, hyouter, hyinner⟩ := ht
  exact ⟨x.append y, hx.append hy, List.forall_mem_append.mpr ⟨hxouter, hyouter⟩,
    List.forall_mem_append.mpr ⟨hxinner, hyinner⟩⟩

theorem readsOnly_plain (h : ∀ p ∈ s, p.opensQuery = false ∧ p.Reads P) : ReadsOnly P s :=
  ⟨⟨s, []⟩, parted_plain fun p hp => (h p hp).1, fun p hp => (h p hp).2, List.forall_mem_nil _⟩

/-- The owners of some technologies are looked up in a sub-query. -/
theorem readsOnly_owners (o : Owners) (n : Numbering) {close : String} (h : close ∈ [")", "))"]) :
    ReadsOnly P ((o.pieces n).1 ++ [.words close]) := by
  have hjoined := joined_owners o n
  have hdepth := depthAfter_owners o n
  obtain ⟨p, body, heq, hopens⟩ := owners_eq_cons o n
  rw [heq] at hjoined hdepth ⊢
  have hclose : (Piece.words close).count '(' < (Piece.words close).count ')' := by
    rcases List.mem_pair.mp h with rfl | rfl <;> decide
  exact ⟨_, parted_subQuery hopens hdepth hclose, List.forall_mem_singleton.mpr trivial,
    List.forall_mem_singleton.mpr hjoined⟩

theorem readsOnly_operand (x : Operand) : ReadsOnly (· = x.source) x.pieces := by
  refine readsOnly_plain ?_
  cases x with
  | column c => exact List.forall_mem_singleton.mpr ⟨rfl, rfl, rfl⟩
  | lowered c =>
    rw [Operand.pieces, List.forall_mem_cons, List.forall_mem_cons, List.forall_mem_singleton]
    exact ⟨⟨rfl, trivial⟩, ⟨rfl, rfl, rfl⟩, rfl, trivial⟩

/-- A test reads its column, apart from the sub-query that it makes if it makes one. -/
theorem readsOnly_test (t : Test) (n : Numbering) : ReadsOnly (· = t.column) (t.pieces n).1 := by
  cases t with
  | compare x op v =>
    refine (readsOnly_operand x).append (readsOnly_plain ?_)
    rw [List.forall_mem_cons, List.forall_mem_singleton]
    refine ⟨⟨?_, trivial⟩, rfl, trivial⟩
    cases op <;> rfl
  | like x pattern =>
    refine (readsOnly_operand x).append (readsOnly_plain ?_)
    rw [List.forall_mem_cons, List.forall_mem_cons, List.forall_mem_singleton]
    exact ⟨⟨rfl, trivial⟩, ⟨rfl, trivial⟩, rfl, trivial⟩
  | among c texts =>
    refine readsOnly_plain ?_
    rw [Test.pieces, List.forall_mem_cons, List.forall_mem_cons, List.forall_mem_cons,
      List.forall_mem_singleton]
    exact ⟨⟨rfl, rfl, rfl⟩, ⟨rfl, trivial⟩, ⟨rfl, trivial⟩, rfl, trivial⟩
  | owner o =>
    show ReadsOnly _ ([domainIdPiece, .words " IN ("] ++ (o.pieces n).1 ++ [.words ")"])
    rw [List.append_assoc]
    refine (readsOnly_plain ?_).append (readsOnly_owners o n (by decide))
    rw [List.forall_mem_cons, List.forall_mem_singleton]
    exact ⟨⟨rfl, rfl, rfl⟩, rfl, trivial⟩
  | notOwner o =>
    show ReadsOnly _ ([.words "(", domainIdPiece, .words " NOT IN ("] ++ (o.pieces n).1 ++
      [.words "))"])
    rw [List.append_assoc]
    refine (readsOnly_plain ?_).append (readsOnly_owners o n (by decide))
    rw [List.forall_mem_cons, List.forall_mem_cons, List.forall_mem_singleton]
    exact ⟨⟨rfl, trivial⟩, ⟨rfl, rfl, rfl⟩, rfl, trivial⟩

/-- Conditions read the columns of their tests, apart from their sub-queries. -/
theorem readsOnly_wherePieces (cs : List Clause) :
    ReadsOnly (fun c => ∃ k ∈ cs, ∃ t ∈ k.tests, t.column = c) (wherePieces cs) := by
  have hplain : ∀ w ∈ connectives, (Piece.words w).opensQuery = false := by decide
  have hparts : HoldsOfParts fun ts _ s _ => ReadsOnly (fun c => ∃ t ∈ ts, t.column = c) s :=
    { nil := fun _ => readsOnly_plain (List.forall_mem_nil _)
      words := fun hw _ =>
        readsOnly_plain (List.forall_mem_singleton.mpr ⟨hplain _ hw, trivial⟩)
      append := fun hs ht =>
        (hs.mono fun _ ⟨t, ht, hc⟩ => ⟨t, List.mem_append_left _ ht, hc⟩).append
          (ht.mono fun _ ⟨t, ht, hc⟩ => ⟨t, List.mem_append_right _ ht, hc⟩)
      test := fun t n =>
        (readsOnly_test t n).mono fun _ hc => ⟨t, List.mem_singleton_self t, hc.symm⟩ }
  obtain ⟨-, h⟩ := hparts.conditions cs
  refine h.mono fun c => ?_
  rintro ⟨t, ht, hc⟩
  obtain ⟨k, hk, hkt⟩ := List.mem_flatMap.mp ht
  exact ⟨k, hk, t, hkt, hc⟩

end

/-- A join as it is mentioned. -/
def JoinTable.mention (j : JoinTable) : Mention := ⟨" LEFT OUTER JOIN ", j.table, none⟩

/-- The tables of a selection as they are mentioned. -/
def Selection.mentions (s : Selection) : List Mention :=
  ⟨" FROM ", .domains, none⟩ :: s.joins.map JoinTable.mention

/-- A column is one of the domains or of a table that is joined. -/
def Selection.Covers (s : Selection) (c : Column) : Prop :=
  c.table ∈ .domains :: s.joins.map (·.table)

/-- A selection joins the tables whose columns it asks about, and technologies only along with the
links they hang on. -/
structure Selection.Complete (s : Selection) : Prop where
  links : .technologies ∈ s.joins → .links ∈ s.joins
  clauses : ∀ k ∈ s.clauses, ∀ t ∈ k.tests, s.Covers t.column

/-- The tables that a statement mentions outside its sub-queries are those of a selection, in their
order, and no column is named that is not of a mentioned table. -/
structure Statement.JoinsAs (st : Statement) (s : Selection) : Prop where
  mentions : Statement.mentions st.parts.outer = s.mentions
  outer : Statement.Joined st.parts.outer
  inner : ∀ q ∈ st.parts.inner, Statement.Joined q

section

variable {s : Selection} {P : Column → Prop} {p : Piece} {head tail : Statement}

theorem mentionsFrom_joins (before : String) (joins : List JoinTable)
    (h : ∀ p ∈ tail, p.Reads P) :
    mentionsFrom before (joins.flatMap JoinTable.pieces ++ tail) =
      joins.map JoinTable.mention := by
  induction joins generalizing before with
  | nil => exact mentionsFrom_of_reads before h
  | cons j joins ih =>
    have hjoin : mentionsFrom before ((j :: joins).flatMap JoinTable.pieces ++ tail) =
        j.mention :: mentionsFrom "" (joins.flatMap JoinTable.pieces ++ tail) := rfl
    rw [hjoin, ih, List.map_cons]

/-- Only what stands between head and tail mentions tables. -/
theorem mentions_around (hhead : ∀ p ∈ head, p.Reads P) (htail : ∀ p ∈ tail, p.Reads P) :
    Statement.mentions (head ++ s.fromPieces ++ tail) = s.mentions := by
  rw [Statement.mentions, List.append_assoc, Selection.fromPieces, List.cons_append,
    mentionsFrom_append_words hhead, List.cons_append, mentionsFrom, mentionsFrom_joins _ _ htail]
  rfl

theorem known_of_covers {c : Column} (h : s.Covers c) : (Piece.ofColumn c).Known s.mentions := by
  rcases List.mem_cons.mp h with hdomains | hjoined
  · exact ⟨_, List.mem_cons_self, hdomains.symm, congrArg Table.name hdomains.symm⟩
  · obtain ⟨j, hj, hc⟩ := List.mem_map.mp hjoined
    exact ⟨j.mention, List.mem_cons_of_mem _ (List.mem_map_of_mem hj), hc, congrArg Table.name hc⟩

theorem Piece.Reads.known (h : p.Reads s.Covers) : p.Known s.mentions := by
  cases p with
  | column owner c =>
    obtain ⟨rfl, hc⟩ := h
    exact known_of_covers hc
  | table t name => exact trivial
  | words w => exact trivial
  | place label v => exact trivial
  | places label vs => exact trivial

/-- The columns that agree in joined rows are of tables that are joined. -/
theorem known_fromPieces (h : s.Complete) : ∀ p ∈ s.fromPieces, p.Known s.mentions := by
  have hcolumns (j : JoinTable) (hj : j ∈ s.joins) :
      s.Covers j.condition.1 ∧ s.Covers j.condition.2 := by
    have hself : j.table ∈ .domains :: s.joins.map (·.table) :=
      List.mem_cons_of_mem _ (List.mem_map_of_mem hj)
    cases j with
    | links => exact ⟨List.mem_cons_self, hself⟩
    | technologies =>
      exact ⟨List.mem_cons_of_mem _ (List.mem_map_of_mem (h.links hj)), hself⟩
    | stats => exact ⟨List.mem_cons_self, hself⟩
  rw [Selection.fromPieces, List.forall_mem_cons, List.forall_mem_cons, List.forall_mem_flatMap]
  refine ⟨trivial, trivial, fun j hj => ?_⟩
  obtain ⟨hleft, hright⟩ := hcolumns j hj
  simp only [JoinTable.pieces, List.forall_mem_cons]
  exact ⟨trivial, trivial, trivial, known_of_covers hleft, trivial, known_of_covers hright,
    List.forall_mem_nil _⟩

theorem joined_around (h : s.Complete) (hhead : ∀ p ∈ head, p.Reads s.Covers)
    (htail : ∀ p ∈ tail, p.Reads s.Covers) :
    Statement.Joined (head ++ s.fromPieces ++ tail) := by
  have hmentions := mentions_around (s := s) hhead htail
  constructor
  · refine ⟨_, _, hmentions, rfl, List.forall_mem_map.mpr fun j _ => ?_⟩
    show " LEFT OUTER JOIN " ∈ joinWords
    decide
  · rw [hmentions, List.forall_mem_append, List.forall_mem_append]
    exact ⟨⟨fun p hp => (hhead p hp).known, known_fromPieces h⟩, fun p hp => (htail p hp).known⟩

/-- A statement of a selection has the tables of the selection, if what stands before and after them
only reads columns of these tables. -/
theorem joinsAs_around (h : s.Complete) (hopening : p.Reads s.Covers)
    (hhead : ∀ q ∈ head, q.opensQuery = false ∧ q.Reads s.Covers)
    (htail : ∀ q ∈ tail, q.opensQuery = false ∧ q.Reads s.Covers) :
    Statement.JoinsAs (p :: head ++ s.sharedPieces ++ tail) s := by
  obtain ⟨x, hx, houter, hinner⟩ := readsOnly_wherePieces s.clauses
  have hfrom : ∀ q ∈ s.fromPieces, q.opensQuery = false := by
    rw [Selection.fromPieces, List.forall_mem_cons, List.forall_mem_cons, List.forall_mem_flatMap]
    refine ⟨rfl, rfl, fun j _ => ?_⟩
    cases j <;> decide
  have hparts : Statement.parts (p :: head ++ s.sharedPieces ++ tail) =
      ⟨p :: head ++ s.fromPieces ++ (x.outer ++ tail), x.inner⟩ := by
    have hparted := (((parted_plain fun q hq => (hhead q hq).1).append
      (parted_plain hfrom)).append hx).append (parted_plain fun q hq => (htail q hq).1)
    have hparts := hparted.parts p
    simpa [Parts.append, Selection.sharedPieces] using hparts
  have hfollowing : ∀ q ∈ x.outer ++ tail, q.Reads s.Covers := by
    refine List.forall_mem_append.mpr
      ⟨fun q hq => (houter q hq).mono ?_, fun q hq => (htail q hq).2⟩
    rintro _ ⟨k, hk, t, ht, rfl⟩
    exact h.clauses k hk t ht
  have hbefore : ∀ q ∈ p :: head, q.Reads s.Covers :=
    List.forall_mem_cons.mpr ⟨hopening, fun q hq => (hhead q hq).2⟩
  constructor
  · rw [hparts]
    exact mentions_around hbefore hfollowing
  · rw [hparts]
    exact joined_around h hbefore hfollowing
  · rw [hparts]
    exact hinner

theorem reads_domainIdPiece : domainIdPiece.Reads s.Covers :=
  ⟨rfl, List.mem_cons_self⟩

theorem joinsAs_countStatement (h : s.Complete) : Statement.JoinsAs s.countStatement s := by
  have hhead : ∀ q ∈ [domainIdPiece, .words ") AS total"],
      q.opensQuery = false ∧ q.Reads s.Covers := by
    rw [List.forall_mem_cons, List.forall_mem_singleton]
    exact ⟨⟨rfl, reads_domainIdPiece⟩, rfl, trivial⟩
  have hjoins : Statement.JoinsAs (countHead ++ s.sharedPieces ++ []) s :=
    joinsAs_around h trivial hhead (List.forall_mem_nil _)
  rwa [List.append_nil] at hjoins

example :
    (Selection.countStatement ⟨[], [.ofTest (.notOwner (.ofAny ["React"]))]⟩).parts.inner.map
      Statement.text = ["SELECT DISTINCT domain_technologies_1.domain_id FROM " ++
        "domain_technologies AS domain_technologies_1 WHERE " ++
        "domain_technologies_1.technology_name IN (?)"] := by
  decide +kernel

theorem joinsAs_pageStatement {q : PageQuery} (h : q.selection.Complete)
    (hsort : q.selection.Covers q.sortColumn) : Statement.JoinsAs q.statement q.selection := by
  have hcolumns : ∀ c ∈ Table.domains.columns ++ q.extraColumns, q.selection.Covers c := by
    refine List.forall_mem_append.mpr ⟨fun c hc => ?_, fun c hc => ?_⟩
    · obtain ⟨d, -, rfl⟩ := List.mem_map.mp hc
      exact List.mem_cons_self
    · rw [PageQuery.extraColumns] at hc
      split at hc
      · exact List.mem_singleton.mp hc ▸ hsort
      · cases hc
  refine joinsAs_around h trivial (fun piece hpiece => ?_) ?_
  · obtain rfl | ⟨c, hc, rfl⟩ := mem_columnPieces hpiece
    · exact ⟨rfl, trivial⟩
    · exact ⟨rfl, rfl, hcolumns c hc⟩
  · have hdirection : (Piece.words (if q.descending then " DESC" else " ASC")).opensQuery =
        false := by
      split <;> rfl
    have horder : List.flatten (q.orderPieces.intersperse [.words ", "]) =
        [.ofColumn q.sortColumn, .words (if q.descending then " DESC" else " ASC"),
          .words ", ", domainIdPiece, .words " ASC"] := rfl
    rw [PageQuery.tail, horder]
    simp only [List.cons_append, List.nil_append, List.forall_mem_cons]
    exact ⟨⟨rfl, trivial⟩, ⟨rfl, rfl, hsort⟩, ⟨hdirection, trivial⟩, ⟨rfl, trivial⟩,
      ⟨rfl, reads_domainIdPiece⟩, ⟨rfl, trivial⟩, ⟨rfl, trivial⟩, ⟨rfl, trivial⟩, ⟨rfl, trivial⟩,
      ⟨rfl, trivial⟩, List.forall_mem_nil _⟩

end

end TechCatalog.Query
