import Mathlib.Data.List.DropRight
import TechCatalog.Proofs.Lists
import TechCatalog.Proofs.Outcomes
import TechCatalog.Request.Search

/-!
# Requests read back

A request that was read is written under the wire spelling of its members, and what was written can
be read again. `ReadsBack` ties a reader to a writer: the reader accepts nothing but valid values,
and reads what is written of a valid value as that value. Single values, lists and objects read back
when their parts do, and so do whole requests. The valid requests are the well-formed ones: what is
filled in is not blank and without blanks around it where those are removed, numbers are not
negative, and bounds are in order.
-/

namespace TechCatalog.Text

theorem trim_eq (p : Char → Bool) (s : List Char) :
    trim p s = List.rdropWhile p (s.dropWhile p) := rfl

/-- Nothing is left to be removed from the front of a trimmed text. -/
theorem dropWhile_trim (p : Char → Bool) (s : List Char) : (trim p s).dropWhile p = trim p s := by
  rw [List.dropWhile_eq_self_iff]
  intro hlen
  -- What is removed from the end leaves the first character where it is.
  obtain ⟨rest, hrest⟩ := List.rdropWhile_prefix p (s.dropWhile p)
  rw [← trim_eq] at hrest
  have hfirst : ∀ hl : 0 < (s.dropWhile p).length, ¬ p (s.dropWhile p)[0] = true :=
    List.dropWhile_eq_self_iff.mp (List.dropWhile_idempotent p s)
  simp only [← hrest, List.length_append, List.getElem_append_left hlen] at hfirst
  exact hfirst (by omega)

theorem trim_trim (p : Char → Bool) (s : List Char) : trim p (trim p s) = trim p s := by
  rw [trim_eq, dropWhile_trim, trim_eq, List.rdropWhile_idempotent]

theorem strip_strip (s : String) : strip (strip s) = strip s := by
  rw [strip, strip, String.toList_ofList, trim_trim]

end TechCatalog.Text

namespace TechCatalog.Request

/-- A text filter looks for a text that is not blank. -/
def TextFilter.WellFormed (f : TextFilter) : Prop :=
  Text.allBlank f.value = false
  deriving Decidable

/-- A range of amounts has no lower bound above its upper bound. NaN is neither above nor below. -/
def AmountRange.WellFormed (r : AmountRange) : Prop :=
  ∀ lo ∈ r.min, ∀ hi ∈ r.max, Decimal.below hi lo = false
  deriving Decidable

/-- A range of counts has bounds that are not negative and in order. -/
structure CountRange.WellFormed (r : CountRange) : Prop where
  min : ∀ lo ∈ r.min, 0 ≤ lo
  max : ∀ hi ∈ r.max, 0 ≤ hi
  inOrder : ∀ lo ∈ r.min, ∀ hi ∈ r.max, lo ≤ hi

/-- A category filter names a category, without blanks around it, and has bounds that are not
negative and in order. -/
structure CategoryFilter.WellFormed (f : CategoryFilter) : Prop where
  named : f.category ≠ ""
  stripped : Text.strip f.category = f.category
  minCount : ∀ lo ∈ f.minCount, 0 ≤ lo
  maxCount : ∀ hi ∈ f.maxCount, 0 ≤ hi
  inOrder : ∀ lo ∈ f.minCount, ∀ hi ∈ f.maxCount, lo ≤ hi

/-- The filters that have rules keep them. -/
structure Filters.WellFormed (f : Filters) : Prop where
  domain : ∀ g ∈ f.domain, g.WellFormed
  companyName : ∀ g ∈ f.companyName, g.WellFormed
  technologyCategories : ∀ gs ∈ f.technologyCategories, ∀ g ∈ gs, g.WellFormed
  totalSpendRange : ∀ r ∈ f.totalSpendRange, r.WellFormed
  technologyCountRange : ∀ r ∈ f.technologyCountRange, r.WellFormed

/-- The size and the number of a page are positive. -/
structure Paging.WellFormed (p : Paging) : Prop where
  limit : ∀ n ∈ p.limit, 0 < n
  page : 0 < p.page

/-- A request is well-formed when its parts are. -/
structure SearchRequest.WellFormed (r : SearchRequest) : Prop where
  filters : r.filters.WellFormed
  paging : r.paging.WellFormed

/-- A reader accepts valid values only, and reads what is written of a valid value as the value it
was. -/
structure ReadsBack {α : Type} (read : Json → Checked α) (write : α → Json) (valid : α → Prop) :
    Prop where
  valid_of_read {v : Json} {a : α} : read v = .accept a → valid a
  read_write {a : α} : valid a → read (write a) = .accept a

section

variable {α : Type} {read : Json → Checked α} {write : α → Json} {valid : α → Prop}

/-- What is written is read as what it was exactly when that is valid. -/
theorem ReadsBack.read_write_iff (h : ReadsBack read write valid) (a : α) :
    read (write a) = .accept a ↔ valid a :=
  ⟨h.valid_of_read, h.read_write⟩

/-- Reading, writing and reading again is reading. -/
theorem ReadsBack.read_again (h : ReadsBack read write valid) (v : Json) :
    ((read v).andThen fun a => read (write a)) = read v := by
  cases hv : read v with
  | accept a => exact h.read_write (h.valid_of_read hv)
  | reject faults => rfl

theorem readText_readsBack : ReadsBack readText .str fun _ => True where
  valid_of_read _ := trivial
  read_write _ := rfl

theorem readBool_readsBack : ReadsBack readBool .bool fun _ => True where
  valid_of_read _ := trivial
  read_write _ := rfl

theorem readNumber_readsBack : ReadsBack readNumber .num fun _ => True where
  valid_of_read _ := trivial
  read_write _ := rfl

theorem atLeast_readsBack (least : Int) :
    ReadsBack (atLeast least readInteger) .int fun i => least ≤ i where
  valid_of_read h := by
    obtain ⟨i, -, hi⟩ := Checked.andThen_eq_accept.mp h
    split at hi
    · rename_i hle
      cases hi
      exact hle
    · cases hi
  read_write h := if_pos h

theorem above_readsBack (bound : Int) :
    ReadsBack (above bound readInteger) .int fun i => bound < i where
  valid_of_read h := by
    obtain ⟨i, -, hi⟩ := Checked.andThen_eq_accept.mp h
    split at hi
    · rename_i hlt
      cases hi
      exact hlt
    · cases hi
  read_write h := if_pos h

/-- Words that are told apart read back. -/
theorem readWord_readsBack {meanings : List (String × α)} {word : α → String}
    (h : ∀ a, meanings.lookup (word a) = some a) :
    ReadsBack (readWord meanings) (fun a => .str (word a)) fun _ => True where
  valid_of_read _ := trivial
  read_write {a} _ := by simp only [readWord, h a]

theorem nullable_of_ne_null {v : Json} (h : v ≠ .null) :
    nullable read v = (read v).map some := by
  cases v with
  | null => exact absurd rfl h
  | bool b => rfl
  | int i => rfl
  | num x => rfl
  | str s => rfl
  | arr vs => rfl
  | obj o => rfl

/-- A part that may be absent reads back when the part does, unless it is written as null. -/
theorem ReadsBack.nullable (h : ReadsBack read write valid) (hnull : ∀ a, write a ≠ .null) :
    ReadsBack (nullable read) (dump? write) fun o => ∀ a ∈ o, valid a where
  valid_of_read {v o} hv := by
    by_cases hn : v = .null
    · subst hn
      cases hv
      exact fun a ha => nomatch ha
    · rw [nullable_of_ne_null hn, Checked.map_eq_accept] at hv
      obtain ⟨a, ha, rfl⟩ := hv
      rintro b hb
      cases hb
      exact h.valid_of_read ha
  read_write {o} ho := by
    cases o with
    | none => rfl
    | some a => rw [dump?, nullable_of_ne_null (hnull a), h.read_write (ho a rfl), Checked.map]

theorem ReadsBack.tuple (h : ReadsBack read write valid) :
    ReadsBack (readTuple read) (fun as => .arr (as.map write)) fun as => ∀ a ∈ as, valid a where
  valid_of_read {v as} hv := by
    cases v with
    | arr vs =>
      intro a ha
      obtain ⟨v, -, hva⟩ := exists_of_forall₂ (Checked.items_eq_accept.mp hv).flip ha
      exact h.valid_of_read hva
    | _ => cases hv
  read_write {as} has := by
    rw [readTuple, Checked.items_eq_accept, List.forall₂_map_left_iff, List.forall₂_same]
    exact fun a ha => h.read_write (has a ha)

/-- A rule about the whole value is one more thing that makes it valid. -/
theorem ReadsBack.require (h : ReadsBack read write valid) (rule : α → Bool) (reason : String) :
    ReadsBack (fun v => (read v).require rule reason) write
      fun a => valid a ∧ rule a = true where
  valid_of_read hv := by
    obtain ⟨hread, hrule⟩ := Checked.require_eq_accept.mp hv
    exact ⟨h.valid_of_read hread, hrule⟩
  read_write hva := Checked.require_eq_accept.mpr ⟨h.read_write hva.1, hva.2⟩

theorem ReadsBack.congr (h : ReadsBack read write valid) {valid' : α → Prop}
    (hvalid : ∀ a, valid a ↔ valid' a) : ReadsBack read write valid' where
  valid_of_read hv := (hvalid _).mp (h.valid_of_read hv)
  read_write ha := h.read_write ((hvalid _).mpr ha)

variable {k : Key} {o : Json.Members} {absent a : α} {name : String}

theorem ReadsBack.valid_of_required (h : ReadsBack read write valid)
    (ho : k.required read o = .accept a) : valid a := by
  rw [Key.required] at ho
  split at ho
  · exact h.valid_of_read (Checked.within_eq_accept.mp ho)
  · cases ho

theorem ReadsBack.valid_of_optional (h : ReadsBack read write valid) (habsent : valid absent)
    (ho : k.optional absent read o = .accept a) : valid a := by
  rw [Key.optional] at ho
  split at ho
  · exact h.valid_of_read (Checked.within_eq_accept.mp ho)
  · cases ho
    exact habsent

/-- A member that was written is read as what it was. -/
theorem ReadsBack.required_found (h : ReadsBack read write valid)
    (hfind : k.find? o = some (name, write a)) (ha : valid a) :
    k.required read o = .accept a := by
  rw [Key.required, hfind]
  exact Checked.within_eq_accept.mpr (h.read_write ha)

theorem ReadsBack.optional_found (h : ReadsBack read write valid)
    (hfind : k.find? o = some (name, write a)) (ha : valid a) :
    k.optional absent read o = .accept a := by
  rw [Key.optional, hfind]
  exact Checked.within_eq_accept.mpr (h.read_write ha)

theorem readForm_eq_accept {origin : Origin} {form : String}
    {readMembers : Json.Members → Checked α} {v : Json} :
    readForm origin form readMembers v = .accept a ↔
      ∃ o, v = .obj o ∧ readMembers o = .accept a := by
  cases v <;> simp [readForm, Checked.fail]

end

theorem TextFilter.readsBack (origin : Origin) :
    ReadsBack (TextFilter.read origin) TextFilter.dump TextFilter.WellFormed := by
  have hvalue : ReadsBack (fun v => (readText v).require (fun s => !Text.allBlank s)
      "value must not be blank") .str fun s => Text.allBlank s = false :=
    (readText_readsBack.require _ _).congr fun s => by rw [true_and, Bool.not_eq_true']
  have hmatch : ReadsBack (readWord MatchType.words) (fun m => .str m.word) fun _ => True :=
    readWord_readsBack fun m => by cases m <;> rfl
  refine { valid_of_read := fun {v f} hv => ?_, read_write := fun {f} hf => ?_ }
  · obtain ⟨o, -, ho⟩ := readForm_eq_accept.mp hv
    simp only [Checked.both_eq_accept, Checked.map_eq_accept] at ho
    obtain ⟨_, caseSensitive, ⟨_, matchType, ⟨value, ho, rfl⟩, -, rfl⟩, -, rfl⟩ := ho
    exact hvalue.valid_of_required ho
  · obtain ⟨value, matchType, caseSensitive⟩ := f
    refine Checked.both_accept (Checked.both_accept (Checked.map_accept ?_) ?_) ?_
    · exact hvalue.required_found rfl hf
    · exact hmatch.optional_found rfl trivial
    · exact readBool_readsBack.optional_found rfl trivial

theorem dumpTexts?_eq (xs : Option (List String)) :
    dumpTexts? xs = dump? (fun xs => .arr (xs.map .str)) xs := by
  cases xs <;> rfl

theorem ListFilter.readsBack (origin : Origin) :
    ReadsBack (ListFilter.read origin) ListFilter.dump fun _ => True := by
  have htexts := readText_readsBack.tuple.nullable fun _ => by rintro ⟨⟩
  refine { valid_of_read := fun _ => trivial, read_write := fun {f} _ => ?_ }
  obtain ⟨included, excluded, required⟩ := f
  simp only [ListFilter.dump, dumpTexts?_eq]
  refine Checked.both_accept (Checked.both_accept (Checked.map_accept ?_) ?_) ?_
  · exact htexts.optional_found rfl fun _ _ _ _ => trivial
  · exact htexts.optional_found rfl fun _ _ _ _ => trivial
  · exact htexts.optional_found rfl fun _ _ _ _ => trivial

theorem getD_map_eq_dump? {α : Type} (write : α → Json) (a : Option α) :
    (a.map write).getD .null = dump? write a := by
  cases a <;> rfl

theorem Range.readsBack {α : Type} {read : Json → Checked α} {write : α → Json} {valid : α → Prop}
    (h : ReadsBack read write valid) (hnull : ∀ a, write a ≠ .null) (above : α → α → Bool)
    (origin : Origin) (form : String) :
    ReadsBack (readForm origin form (Range.readMembers read above)) (Range.dump write) fun r =>
      (∀ lo ∈ r.min, valid lo) ∧ (∀ hi ∈ r.max, valid hi) ∧ r.inOrder above = true := by
  have hbound := h.nullable hnull
  have habsent : ∀ a ∈ (none : Option α), valid a := fun _ ha => nomatch ha
  refine { valid_of_read := fun {v r} hv => ?_, read_write := fun {r} hr => ?_ }
  · obtain ⟨o, -, ho⟩ := readForm_eq_accept.mp hv
    obtain ⟨ho, horder⟩ := Checked.require_eq_accept.mp ho
    simp only [Checked.both_eq_accept, Checked.map_eq_accept] at ho
    obtain ⟨_, inclusive, ⟨_, greatest, ⟨least, hleast, rfl⟩, hgreatest, rfl⟩, -, rfl⟩ := ho
    exact ⟨hbound.valid_of_optional habsent hleast, hbound.valid_of_optional habsent hgreatest,
      horder⟩
  · obtain ⟨least, greatest, inclusive⟩ := r
    simp only [Range.dump, getD_map_eq_dump?]
    refine Checked.require_eq_accept.mpr ⟨?_, hr.2.2⟩
    refine Checked.both_accept (Checked.both_accept (Checked.map_accept ?_) ?_) ?_
    · exact hbound.optional_found rfl hr.1
    · exact hbound.optional_found rfl hr.2.1
    · exact readBool_readsBack.optional_found rfl trivial

theorem AmountRange.readsBack (origin : Origin) :
    ReadsBack (AmountRange.read origin) (Range.dump .num) AmountRange.WellFormed := by
  refine (Range.readsBack readNumber_readsBack (fun _ => by rintro ⟨⟩) _ origin _).congr fun r => ?_
  obtain ⟨least, greatest, inclusive⟩ := r
  cases least <;> cases greatest <;> simp [Range.inOrder, AmountRange.WellFormed]

theorem CountRange.readsBack (origin : Origin) :
    ReadsBack (CountRange.read origin) (Range.dump .int) CountRange.WellFormed := by
  refine (Range.readsBack (atLeast_readsBack 0) (fun _ => by rintro ⟨⟩) _ origin _).congr
    fun r => ?_
  have horder : r.inOrder (fun x y => decide (y < x)) = true ↔
      ∀ lo ∈ r.min, ∀ hi ∈ r.max, lo ≤ hi := by
    obtain ⟨least, greatest, inclusive⟩ := r
    cases least <;> cases greatest <;> simp [Range.inOrder]
  rw [horder]
  exact ⟨fun ⟨min, max, inOrder⟩ => ⟨min, max, inOrder⟩,
    fun ⟨min, max, inOrder⟩ => ⟨min, max, inOrder⟩⟩

theorem ofInt?_eq (i : Option Int) : Json.ofInt? i = dump? .int i := by
  cases i <;> rfl

/-- A category that was read has lost its blanks, so reading it again changes nothing. -/
theorem category_readsBack (reason : String) :
    ReadsBack (fun v => ((readText v).map Text.strip).require (fun s => s ≠ "") reason) .str
      fun s => s ≠ "" ∧ Text.strip s = s where
  valid_of_read h := by
    obtain ⟨hread, hne⟩ := Checked.require_eq_accept.mp h
    obtain ⟨s, -, rfl⟩ := Checked.map_eq_accept.mp hread
    exact ⟨of_decide_eq_true hne, Text.strip_strip s⟩
  read_write h := Checked.require_eq_accept.mpr
    ⟨Checked.map_eq_accept.mpr ⟨_, rfl, h.2⟩, decide_eq_true h.1⟩

theorem CategoryFilter.readsBack (origin : Origin) :
    ReadsBack (CategoryFilter.read origin) CategoryFilter.dump CategoryFilter.WellFormed := by
  have hcategory := category_readsBack "category must not be empty"
  have hcount := (atLeast_readsBack 0).nullable fun _ => by rintro ⟨⟩
  have habsent : ∀ n ∈ (none : Option Int), 0 ≤ n := fun _ hn => nomatch hn
  have hoperator : ReadsBack (readWord Operator.words) (fun op => .str op.word) fun _ => True :=
    readWord_readsBack fun op => by cases op <;> rfl
  have horder : ∀ f : CategoryFilter, f.inOrder = true ↔
      ∀ lo ∈ f.minCount, ∀ hi ∈ f.maxCount, lo ≤ hi := by
    rintro ⟨category, least, greatest, operator⟩
    cases least <;> cases greatest <;> simp [CategoryFilter.inOrder]
  refine { valid_of_read := fun {v f} hv => ?_, read_write := fun {f} hf => ?_ }
  · obtain ⟨o, -, ho⟩ := readForm_eq_accept.mp hv
    obtain ⟨ho, hinOrder⟩ := Checked.require_eq_accept.mp ho
    rw [horder] at hinOrder
    simp only [Checked.both_eq_accept, Checked.map_eq_accept] at ho
    obtain ⟨_, operator, ⟨_, greatest, ⟨_, least, ⟨category, hread, rfl⟩, hleast, rfl⟩, hgreatest,
      rfl⟩, -, rfl⟩ := ho
    obtain ⟨hnamed, hstripped⟩ := hcategory.valid_of_required hread
    exact ⟨hnamed, hstripped, hcount.valid_of_optional habsent hleast,
      hcount.valid_of_optional habsent hgreatest, hinOrder⟩
  · obtain ⟨category, least, greatest, operator⟩ := f
    simp only [CategoryFilter.dump, ofInt?_eq]
    refine Checked.require_eq_accept.mpr ⟨?_, (horder _).mpr hf.inOrder⟩
    refine Checked.both_accept (Checked.both_accept (Checked.both_accept
      (Checked.map_accept ?_) ?_) ?_) ?_
    · exact hcategory.required_found rfl ⟨hf.named, hf.stripped⟩
    · exact hcount.optional_found rfl hf.minCount
    · exact hcount.optional_found rfl hf.maxCount
    · exact hoperator.optional_found rfl trivial

/-- A text filter that asks for nothing is left out when it is read, and is never written. -/
theorem readTextFilter?_readsBack (origin : Origin) :
    ReadsBack (readTextFilter? origin) (dump? TextFilter.dump) fun f => ∀ g ∈ f, g.WellFormed := by
  have hfilter := (TextFilter.readsBack origin).nullable fun _ => by rintro ⟨⟩
  refine { valid_of_read := fun {v f} hv => ?_, read_write := fun {f} hf => ?_ }
  · rw [readTextFilter?.eq_def] at hv
    have hnothing : ∀ f : Option TextFilter, Checked.accept none = .accept f →
        ∀ g ∈ f, g.WellFormed := by
      rintro f ⟨⟩ g ⟨⟩
    repeat' split at hv
    all_goals first
      | exact hnothing f hv
      | exact hfilter.valid_of_read hv
  · cases f with
    | none => rfl
    | some f =>
      -- The value is not blank, so the filter that was written is not taken for an absent one.
      have hblank : Text.allBlank f.value = false := hf f rfl
      have hvalue : readTextFilter? origin f.dump = nullable (TextFilter.read origin) f.dump :=
        if_neg (Bool.eq_false_iff.mp hblank)
      exact hvalue.trans (hfilter.read_write hf)

theorem Filters.readsBack (origin : Origin) :
    ReadsBack (Filters.read origin) Filters.dump Filters.WellFormed := by
  have htext := readTextFilter?_readsBack origin
  have hlist := (ListFilter.readsBack origin).nullable fun _ => by rintro ⟨⟩
  have hcategories := (CategoryFilter.readsBack origin).tuple.nullable fun _ => by rintro ⟨⟩
  have hamount := (AmountRange.readsBack origin).nullable fun _ => by rintro ⟨⟩
  have hcount := (CountRange.readsBack origin).nullable fun _ => by rintro ⟨⟩
  have habsent {α : Type} {valid : α → Prop} : ∀ a ∈ (none : Option α), valid a :=
    fun _ ha => nomatch ha
  refine { valid_of_read := fun {v f} hv => ?_, read_write := fun {f} hf => ?_ }
  · obtain ⟨o, -, ho⟩ := readForm_eq_accept.mp hv
    simp only [Checked.both_eq_accept, Checked.map_eq_accept] at ho
    obtain ⟨_, counted, ⟨_, spent, ⟨_, categories, ⟨_, technologies, ⟨_, country, ⟨_, category,
      ⟨_, company, ⟨domain, hdomain, rfl⟩, hcompany, rfl⟩, -, rfl⟩, -, rfl⟩, -, rfl⟩, hcategory,
      rfl⟩, hspent, rfl⟩, hcounted, rfl⟩ := ho
    exact {
      domain := htext.valid_of_optional habsent hdomain
      companyName := htext.valid_of_optional habsent hcompany
      technologyCategories := hcategories.valid_of_optional habsent hcategory
      totalSpendRange := hamount.valid_of_optional habsent hspent
      technologyCountRange := hcount.valid_of_optional habsent hcounted }
  · obtain ⟨domain, company, category, country, technologies, categories, spent, counted⟩ := f
    refine Checked.both_accept (Checked.both_accept (Checked.both_accept (Checked.both_accept
      (Checked.both_accept (Checked.both_accept (Checked.both_accept
        (Checked.map_accept ?_) ?_) ?_) ?_) ?_) ?_) ?_) ?_
    · exact htext.optional_found rfl hf.domain
    · exact htext.optional_found rfl hf.companyName
    · exact hlist.optional_found rfl fun _ _ => trivial
    · exact hlist.optional_found rfl fun _ _ => trivial
    · exact hlist.optional_found rfl fun _ _ => trivial
    · exact hcategories.optional_found rfl hf.technologyCategories
    · exact hamount.optional_found rfl hf.totalSpendRange
    · exact hcount.optional_found rfl hf.technologyCountRange

/-! ### Whole requests -/

theorem ofText?_eq (s : Option String) : Json.ofText? s = dump? .str s := by
  cases s <;> rfl

theorem readSortOrder_readsBack :
    ReadsBack readSortOrder (fun d => .str d.word) fun _ => True where
  valid_of_read _ := trivial
  read_write {d} _ := by cases d <;> rfl

theorem Paging.readsBack (origin : Origin) :
    ReadsBack (Paging.read origin) Paging.dump Paging.WellFormed := by
  have hpage := above_readsBack 0
  have hlimit := hpage.nullable fun _ => by rintro ⟨⟩
  have hsort := readText_readsBack.nullable fun _ => by rintro ⟨⟩
  have habsent : ∀ n ∈ (none : Option Int), 0 < n := fun _ hn => nomatch hn
  refine { valid_of_read := fun {v p} hv => ?_, read_write := fun {p} hp => ?_ }
  · obtain ⟨o, -, ho⟩ := readForm_eq_accept.mp hv
    simp only [Checked.both_eq_accept, Checked.map_eq_accept] at ho
    obtain ⟨_, order, ⟨_, sortBy, ⟨_, page, ⟨limit, ho, rfl⟩, hp, rfl⟩, -, rfl⟩, -, rfl⟩ := ho
    exact ⟨hlimit.valid_of_optional habsent ho, hpage.valid_of_optional Int.one_pos hp⟩
  · obtain ⟨limit, page, sortBy, order⟩ := p
    simp only [Paging.dump, ofInt?_eq, ofText?_eq]
    refine Checked.both_accept (Checked.both_accept (Checked.both_accept
      (Checked.map_accept ?_) ?_) ?_) ?_
    · exact hlimit.optional_found rfl hp.limit
    · exact hpage.optional_found rfl hp.page
    · exact hsort.optional_found rfl fun _ _ => trivial
    · exact readSortOrder_readsBack.optional_found rfl trivial

theorem Filters.wellFormed_empty : ({} : Filters).WellFormed where
  domain _ hg := nomatch hg
  companyName _ hg := nomatch hg
  technologyCategories _ hg := nomatch hg
  totalSpendRange _ hr := nomatch hr
  technologyCountRange _ hr := nomatch hr

theorem Paging.wellFormed_first : ({} : Paging).WellFormed where
  limit _ hn := nomatch hn
  page := Int.one_pos

theorem SearchRequest.readsBack (origin : Origin) :
    ReadsBack (SearchRequest.read origin) SearchRequest.dump SearchRequest.WellFormed := by
  have hfilters := Filters.readsBack origin
  have hpaging := Paging.readsBack origin
  refine { valid_of_read := fun {v r} hv => ?_, read_write := fun {r} hr => ?_ }
  · obtain ⟨o, -, ho⟩ := readForm_eq_accept.mp hv
    simp only [Checked.both_eq_accept, Checked.map_eq_accept] at ho
    obtain ⟨_, paging, ⟨filters, ho, rfl⟩, hp, rfl⟩ := ho
    exact ⟨hfilters.valid_of_optional Filters.wellFormed_empty ho,
      hpaging.valid_of_optional Paging.wellFormed_first hp⟩
  · obtain ⟨filters, paging⟩ := r
    refine Checked.both_accept (Checked.map_accept ?_) ?_
    · exact hfilters.optional_found rfl hr.filters
    · exact hpaging.optional_found rfl hr.paging

/-- Every request that is accepted is well-formed, a request that is written is read as what it was
exactly when it is well-formed, and reading, writing and reading again is reading. -/
theorem requests_read_back (origin : Origin) :
    (∀ v r, SearchRequest.read origin v = .accept r → r.WellFormed) ∧
    (∀ r, SearchRequest.read origin r.dump = .accept r ↔ r.WellFormed) ∧
    ∀ v, ((SearchRequest.read origin v).andThen fun r => SearchRequest.read origin r.dump) =
      SearchRequest.read origin v := by
  have h := SearchRequest.readsBack origin
  exact ⟨fun v r => h.valid_of_read, h.read_write_iff, h.read_again⟩

/-- A request as it may be sent: a filter that asks for nothing, blanks and a word in the other
letter case, and a bound that is NaN. -/
def loosePosted : Json := .obj
  [("searchParams", .obj
    [("domain", .obj [("value", .str " ")]),
      ("technologyCategories", .arr [.obj [("category", .str " Mail "), ("minCount", .int 2)]]),
      ("totalSpendRange", .obj [("min", .str "nan"), ("max", .int 0)])]),
    ("options", .obj [("sort_order", .str " desc")])]

/-- What is read of it. -/
def looseRequest : SearchRequest where
  filters :=
    { technologyCategories := some [{ category := "Mail", minCount := some 2 }]
      totalSpendRange := some
        { min := some Decimal.notANumber, max := some (Decimal.toFloat false 0 0) } }
  paging := { sortOrder := .descending }

/-- A request that is written in another way than it was sent reads back. -/
theorem requests_read_back_loose :
    SearchRequest.read .body loosePosted = .accept looseRequest ∧ looseRequest.WellFormed ∧
    SearchRequest.read .body looseRequest.dump = .accept looseRequest := by
  obtain ⟨hvalid, hreadBack, -⟩ := requests_read_back .body
  have hread : SearchRequest.read .body loosePosted = .accept looseRequest := rfl
  have hwell : looseRequest.WellFormed := hvalid _ _ hread
  exact ⟨hread, hwell, (hreadBack looseRequest).mpr hwell⟩

end TechCatalog.Request
