import TechCatalog.Proofs.Bindings
import TechCatalog.Proofs.Matching
import TechCatalog.Proofs.Naming

/-!
# What the two statements of a search share

A statement says which rows it is about between the words for its tables and those for an order.
The counting statement and the page statement of a search are the same there, piece by piece, so
their tables have the same names. These names are numbered from 1 on for each table, in the order in
which they appear. After the values of that part the page statement binds the size of the page and
the number of domains on the pages before, and nothing else.
-/

namespace TechCatalog.Query

open Store

/-- The words before the tables of a statement. -/
def fromWords : Piece := .words " FROM "

/-- The words before the order of a statement. -/
def orderWords : Piece := .words " ORDER BY "

/-- The part of a statement that says which rows it is about: its tables and its conditions. -/
def Statement.filterPart (s : Statement) : Statement :=
  (s.dropWhile fun piece => piece != fromWords).takeWhile fun piece => piece != orderWords

/-- The tables of a statement that have names of their own, with these names. -/
def Statement.aliases (s : Statement) : List (Table × String) :=
  s.filterMap fun
    | .table t (some name) => some (t, name)
    | _ => none

/-- The names that the tables of a statement get when they are numbered from 1 on for each table.
-/
def Statement.numberedAliases (s : Statement) : List (Table × String) :=
  (Search.named (s.aliases.map fun a => (a.1.name, a.1))).map fun b => (b.2, b.1)

theorem Statement.text_append (s t : Statement) :
    Statement.text (s ++ t) = s.text ++ t.text := by
  rw [text, List.map_append, String.join_append]
  rfl

@[simp] theorem Statement.aliases_append (s t : Statement) :
    Statement.aliases (s ++ t) = s.aliases ++ t.aliases :=
  List.filterMap_append

/-- A part that starts with the tables is found where nothing before it starts with tables and what
follows it is at most an order. -/
theorem Statement.filterPart_append {head part tail : Statement} (hhead : fromWords ∉ head)
    (hpart : orderWords ∉ fromWords :: part)
    (htail : tail.takeWhile (fun piece => piece != orderWords) = []) :
    Statement.filterPart (head ++ fromWords :: part ++ tail) = fromWords :: part := by
  have hbefore : ∀ piece ∈ head, (piece != fromWords) = true := by
    intro piece hpiece
    exact bne_iff_ne.mpr (ne_of_mem_of_not_mem hpiece hhead)
  have hwithin : ∀ piece ∈ fromWords :: part, (piece != orderWords) = true := by
    intro piece hpiece
    exact bne_iff_ne.mpr (ne_of_mem_of_not_mem hpiece hpart)
  rw [filterPart, List.append_assoc, List.dropWhile_append_of_pos hbefore, List.cons_append,
    List.dropWhile_cons_of_neg (by decide), ← List.cons_append,
    List.takeWhile_append_of_pos hwithin, htail, List.append_nil]

theorem order_not_mem_owners (o : Owners) (n : Numbering) : orderWords ∉ (o.pieces n).1 := by
  cases o with
  | ofAny names => simp [Owners.pieces, orderWords]
  | ofAll names => simp [Owners.pieces, orderWords]
  | ofCategory category bound => cases bound <;> simp [Owners.pieces, CountBound.pieces, orderWords]

theorem order_not_mem_test (t : Test) (n : Numbering) : orderWords ∉ (t.pieces n).1 := by
  have howners (o : Owners) := order_not_mem_owners o n
  cases t with
  | compare x op v =>
    cases x <;> cases op <;>
      simp [Test.pieces, Operand.pieces, Piece.ofColumn, Comparison.sign, orderWords]
  | like x pattern => cases x <;> simp [Test.pieces, Operand.pieces, Piece.ofColumn, orderWords]
  | among c texts => simp [Test.pieces, Piece.ofColumn, orderWords]
  | owner o => simpa [Test.pieces, domainIdPiece, Piece.ofColumn, orderWords] using howners o
  | notOwner o => simpa [Test.pieces, domainIdPiece, Piece.ofColumn, orderWords] using howners o

theorem order_not_mem_wherePieces (cs : List Clause) : orderWords ∉ wherePieces cs := by
  have hconnective : ∀ w ∈ connectives, orderWords ∉ [Piece.words w] := by decide
  have hparts : HoldsOfParts fun _ _ s _ => orderWords ∉ s :=
    { nil := fun _ => List.not_mem_nil
      words := fun hw _ => hconnective _ hw
      append := fun hs ht hmem => (List.mem_append.mp hmem).elim hs ht
      test := order_not_mem_test }
  obtain ⟨-, h⟩ := hparts.conditions cs
  exact h

theorem order_not_mem_sharedPieces (s : Selection) : orderWords ∉ s.sharedPieces := by
  have hjoin : ∀ j : JoinTable, orderWords ∉ j.pieces := by
    intro j
    cases j <;> decide
  rw [Selection.sharedPieces, Selection.fromPieces]
  intro hmem
  simp only [List.mem_append, List.mem_cons, List.mem_flatMap] at hmem
  rcases hmem with (hfrom | htable | ⟨j, -, hj⟩) | hwhere
  · exact absurd hfrom (by decide)
  · exact absurd htable (by decide)
  · exact hjoin j hj
  · exact order_not_mem_wherePieces s.clauses hwhere

theorem filterPart_countStatement (s : Selection) :
    s.countStatement.filterPart = s.sharedPieces := by
  have hhead : fromWords ∉ countHead := by decide
  have hpart := Statement.filterPart_append hhead (order_not_mem_sharedPieces s) List.takeWhile_nil
  rwa [List.append_nil] at hpart

theorem filterPart_pageStatement (q : PageQuery) :
    q.statement.filterPart = q.selection.sharedPieces := by
  have hcolumns : ∀ cs, ∀ piece ∈ columnPieces cs, piece ≠ fromWords :=
    forall_mem_columnPieces (by decide) fun _ => Piece.noConfusion
  have hhead : fromWords ∉ q.head := by
    intro hmem
    rcases List.mem_cons.mp hmem with hselect | hcolumn
    · exact absurd hselect (by decide)
    · exact hcolumns _ _ hcolumn rfl
  exact Statement.filterPart_append hhead (order_not_mem_sharedPieces q.selection) rfl

/-- The tables that bear names of their own, under the labels that count them. -/
def Statement.tableLabels (s : Statement) : List (String × Table) :=
  s.aliases.map fun a => (a.1.name, a.1)

/-- Whether a numbering has counted the labels that were seen. -/
structure Numbering.Counts (n : Numbering) (seen : List String) : Prop where
  links : seen.count Table.links.name = n.links
  technologies : seen.count Table.technologies.name = n.technologies

/-- Whether the names of tables in a part go on from a numbering and lead to another. -/
def GoesOn (n : Numbering) (s : Statement) (m : Numbering) : Prop :=
  ∀ seen, n.Counts seen →
    (Search.numberedFrom seen s.tableLabels).map Prod.swap = s.aliases ∧
    m.Counts ((s.tableLabels.map (·.1)).reverse ++ seen)

theorem goesOn_of_aliases_nil {s : Statement} (h : s.aliases = []) (n : Numbering) :
    GoesOn n s n := by
  intro seen hseen
  rw [Statement.tableLabels, h]
  exact ⟨rfl, hseen⟩

theorem GoesOn.append {n m k : Numbering} {s t : Statement} (hs : GoesOn n s m)
    (ht : GoesOn m t k) : GoesOn n (s ++ t) k := by
  intro seen hseen
  obtain ⟨hfirst, hmiddle⟩ := hs seen hseen
  obtain ⟨hsecond, hlast⟩ := ht _ hmiddle
  have hlabels : Statement.tableLabels (s ++ t) = s.tableLabels ++ t.tableLabels := by
    rw [Statement.tableLabels, Statement.aliases_append, List.map_append]
    rfl
  constructor
  · rw [hlabels, Search.numberedFrom_append, List.map_append, hfirst, hsecond,
      Statement.aliases_append]
  · rw [hlabels, List.map_append, List.reverse_append, List.append_assoc]
    exact hlast

theorem goesOn_owners (o : Owners) (n : Numbering) : GoesOn n (o.pieces n).1 (o.pieces n).2 := by
  -- A name for a link leaves the count of technologies as it is, and the other way round.
  have hlink : GoesOn n [.table .links (some (numberedName .links (n.links + 1)))]
      { n with links := n.links + 1 } := by
    rintro seen ⟨hlinks, htechnologies⟩
    have hother : Table.links.name ≠ Table.technologies.name := by decide
    refine ⟨?_, List.count_cons_self.trans (congrArg (· + 1) hlinks),
      (List.count_cons_of_ne hother).trans htechnologies⟩
    rw [← hlinks]
    rfl
  have htechnology (m : Numbering) :
      GoesOn m [.table .technologies (some (numberedName .technologies (m.technologies + 1)))]
        { m with technologies := m.technologies + 1 } := by
    rintro seen ⟨hlinks, htechnologies⟩
    have hother : Table.technologies.name ≠ Table.links.name := by decide
    refine ⟨?_, (List.count_cons_of_ne hother).trans hlinks,
      List.count_cons_self.trans (congrArg (· + 1) htechnologies)⟩
    rw [← htechnologies]
    rfl
  cases o with
  | ofAny names => exact hlink
  | ofAll names => exact hlink
  | ofCategory category bound =>
    have hboth := hlink.append (htechnology _)
    cases bound <;> exact hboth

theorem goesOn_test (t : Test) (n : Numbering) : GoesOn n (t.pieces n).1 (t.pieces n).2 := by
  have haround {before after : Statement} (hbefore : before.aliases = [])
      (hafter : after.aliases = []) (o : Owners) :
      GoesOn n (before ++ (o.pieces n).1 ++ after) (o.pieces n).2 :=
    ((goesOn_of_aliases_nil hbefore n).append (goesOn_owners o n)).append
      (goesOn_of_aliases_nil hafter _)
  cases t with
  | compare x op v => cases x <;> exact goesOn_of_aliases_nil rfl n
  | like x pattern => cases x <;> exact goesOn_of_aliases_nil rfl n
  | among c texts => exact goesOn_of_aliases_nil rfl n
  | owner o => exact haround rfl rfl o
  | notOwner o => exact haround rfl rfl o

theorem aliases_pageStatement (q : PageQuery) :
    q.statement.aliases = q.selection.countStatement.aliases := by
  have hcolumns (cs : List Column) : Statement.aliases (columnPieces cs) = [] := by
    rw [Statement.aliases, List.filterMap_eq_nil_iff]
    apply forall_mem_columnPieces
    · rfl
    · intro _
      rfl
  have hhead : Statement.aliases q.head = [] := hcolumns _
  have htail : Statement.aliases q.tail = [] := rfl
  rw [PageQuery.statement, Statement.aliases_append, Statement.aliases_append, hhead, htail,
    List.append_nil]
  rfl

/-- The tables of a selection that have names of their own are numbered in order, from 1 on for each
table. -/
theorem numberedAliases_sharedPieces (s : Selection) :
    Statement.numberedAliases s.sharedPieces = Statement.aliases s.sharedPieces := by
  have hparts : HoldsOfParts fun _ n s m => GoesOn n s m :=
    { nil := fun n => goesOn_of_aliases_nil rfl n
      words := fun _ n => goesOn_of_aliases_nil rfl n
      append := fun hs ht => hs.append ht
      test := goesOn_test }
  have hfrom : Statement.aliases s.fromPieces = [] := by
    have hjoins : Statement.aliases (s.joins.flatMap JoinTable.pieces) = [] := by
      induction s.joins with
      | nil => rfl
      | cons j joins ih => rw [List.flatMap_cons, Statement.aliases_append, ih]; rfl
    exact hjoins
  obtain ⟨m, hwhere⟩ := hparts.conditions s.clauses
  exact (((goesOn_of_aliases_nil hfrom {}).append hwhere) [] ⟨rfl, rfl⟩).1

end TechCatalog.Query

namespace TechCatalog.Search

open Request Store Query Service

/-- What the page statement binds of its own is named apart from what both statements bind. -/
theorem named_pageStatement (f : Filters) (o : PageOrder) :
    named (composePair f o).page.statement.bindings =
      named (composePair f o).selection.countStatement.bindings ++
        [("param_1", .one (.int o.limit)), ("param_2", .one (.int o.offset))] := by
  -- No condition binds under the label of the size and the offset, so these are numbered from 1.
  have hnone : ((((clausesOf f).flatMap Clause.bindings).map (·.1)).reverse).count "param" = 0 := by
    refine List.count_eq_zero.mpr fun hmem => ?_
    obtain ⟨b, hb, hlabel⟩ := List.mem_map.mp (List.mem_reverse.mp hmem)
    have hparam : "param" ∉ textLabels ++ numberLabels := by decide
    exact hparam (hlabel ▸ label_of_mem_clausesOf hb)
  rw [PageQuery.bindings_statement, Selection.bindings_countStatement]
  refine (named_append ((clausesOf f).flatMap Clause.bindings) _).trans (congrArg _ ?_)
  rw [numberedFrom, numberedFrom, numberedFrom, List.count_cons_self, hnone]
  rfl

/-- The two statements of a search say the same of their tables and conditions, and name the tables
in the same way. The page statement binds what the counting statement binds, then the size of the
page and the number of domains on the pages before. -/
theorem statements_share_filters {f : Filters} {p : Paging} {s : Settings} {q : QueryPair}
    (hq : (assemble f p s).1 = .ok q) :
    q.page.statement.filterPart = q.selection.countStatement.filterPart ∧
    q.selection.countStatement.text =
      countHead.text ++ q.selection.countStatement.filterPart.text ∧
    q.page.statement.text =
      q.page.head.text ++ q.selection.countStatement.filterPart.text ++ q.page.tail.text ∧
    q.selection.countStatement.numberedAliases = q.selection.countStatement.aliases ∧
    q.page.statement.aliases = q.selection.countStatement.aliases ∧
    q.page.statement.values = q.selection.countStatement.values ++
      [.int (PageOrder.of p s).1.limit, .int (PageOrder.of p s).1.offset] ∧
    named q.page.statement.bindings = named q.selection.countStatement.bindings ++
      [("param_1", .one (.int (PageOrder.of p s).1.limit)),
        ("param_2", .one (.int (PageOrder.of p s).1.offset))] := by
  have hpair := assemble_ok hq
  subst hpair
  refine ⟨?_, ?_, ?_, ?_, ?_, ?_, named_pageStatement f (PageOrder.of p s).1⟩
  · rw [filterPart_countStatement, filterPart_pageStatement]
    rfl
  · rw [filterPart_countStatement, Selection.countStatement, Statement.text_append]
  · rw [filterPart_countStatement, PageQuery.statement, Statement.text_append,
      Statement.text_append]
    rfl
  · exact numberedAliases_sharedPieces _
  · exact aliases_pageStatement _
  · rw [Statement.values_eq, Statement.values_eq, PageQuery.bindings_statement,
      Selection.bindings_countStatement, List.flatMap_append]
    rfl

/-- A search that looks for owners of technologies four times. -/
def ownersFilters : Filters where
  technologies := some { excluded := some ["jQuery"], required := some ["React", "Vue.js"] }
  technologyCategories := some [{ category := "Payment", minCount := some 1 },
    { category := "Analytics", maxCount := some 3, operator := .not }]

/-- The statements of the second page of ten. -/
def ownersPair : QueryPair :=
  composePair ownersFilters (PageOrder.of { limit := some 10, page := 2 } {}).1

theorem statements_share_filters_owners :
    (assemble ownersFilters { limit := some 10, page := 2 } {}).1 = .ok ownersPair ∧
    ownersPair.page.statement.filterPart = ownersPair.selection.countStatement.filterPart ∧
    ownersPair.page.statement.aliases =
      [(.links, "domain_technologies_1"), (.links, "domain_technologies_2"),
        (.links, "domain_technologies_3"), (.technologies, "technologies_1"),
        (.links, "domain_technologies_4"), (.technologies, "technologies_2")] ∧
    ownersPair.page.statement.values =
      ownersPair.selection.countStatement.values ++ [.int 10, .int 10] := by
  have hq : (assemble ownersFilters { limit := some 10, page := 2 } {}).1 = .ok ownersPair := rfl
  obtain ⟨hpart, -, -, -, haliases, hvalues, -⟩ := statements_share_filters hq
  exact ⟨hq, hpart, haliases.trans rfl, hvalues⟩

end TechCatalog.Search
