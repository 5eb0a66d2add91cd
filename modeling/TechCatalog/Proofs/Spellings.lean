import Mathlib.Data.List.Pairwise
import TechCatalog.Proofs.ObjectMembers
import TechCatalog.Proofs.ReadBack

/-!
# The two spellings of a request

Most members of a request may be sent under two names. `Form.Respelled` relates the documents that
differ in these names only: at any depth, each member of a form is there at most once, under either
name, and what no form knows is the same. `Follows` says of a reader that it makes no difference
between related documents: both are accepted as the same value, or both have the same faults at the
same places, each place named by the keys that lead to it. Readers of forms follow when the readers
of their members do.
-/

namespace TechCatalog.Request

/-- A member that a form knows: its key, and how far the values under the key may differ. -/
structure Field where
  key : Key
  alike : Json → Json → Prop

/-- Two keys have no spelling in common. -/
def Key.Apart (k l : Key) : Prop :=
  k.wire ≠ l.wire ∧ k.wire ≠ l.plain ∧ k.plain ≠ l.wire ∧ k.plain ≠ l.plain
  deriving Decidable

/-- The members that objects of one kind may have. -/
structure Form where
  fields : List Field
  apart : fields.Pairwise fun f g => f.key.Apart g.key := by decide

/-- Two members are the same but for the spelling of the key, and for how far the values under it
may differ. Members that the form does not know are the same. -/
inductive Form.MemberRespelled (F : Form) : String × Json → String × Json → Prop
  | known {f : Field} {name name' : String} {v w : Json} (hf : f ∈ F.fields)
      (hname : f.key.Spells name) (hname' : f.key.Spells name') (hvalue : f.alike v w) :
      F.MemberRespelled (name, v) (name', w)
  | other {m : String × Json} (hm : ∀ f ∈ F.fields, ¬ f.key.Spells m.1) : F.MemberRespelled m m

/-- The members of two objects differ in spelling only, and none of the form occurs twice, be it
under one spelling or under both. -/
structure Form.MembersRespelled (F : Form) (o o' : Json.Members) : Prop where
  members : List.Forall₂ F.MemberRespelled o o'
  once : ∀ f ∈ F.fields, o.Pairwise fun m m' => ¬ (f.key.Spells m.1 ∧ f.key.Spells m'.1)

/-- Two documents of a form differ in spelling only. What is no object has no keys to spell. -/
inductive Form.Respelled (F : Form) : Json → Json → Prop
  | object {o o' : Json.Members} (h : F.MembersRespelled o o') : F.Respelled (.obj o) (.obj o')
  | other {v : Json} (h : ∀ o, v ≠ .obj o) : F.Respelled v v

/-- Two arrays differ in their items, one by one, and have as many of them. -/
inductive ItemsRespelled (alike : Json → Json → Prop) : Json → Json → Prop
  | array {vs ws : List Json} (h : List.Forall₂ alike vs ws) :
      ItemsRespelled alike (.arr vs) (.arr ws)
  | other {v : Json} (h : ∀ vs, v ≠ .arr vs) : ItemsRespelled alike v v

/-- A path in one document leads to the place to which a path in another leads. A member that is
absent from both has the same name in both. -/
inductive SamePlace : Json → Json → List Step → List Step → Prop
  | same {v : Json} {path : List Step} : SamePlace v v path path
  | here {v w : Json} : SamePlace v w [] []
  | member {o o' : Json.Members} {i : Nat} {name name' : String} {v w : Json}
      {path path' : List Step} (hv : o[i]? = some (name, v)) (hw : o'[i]? = some (name', w))
      (h : SamePlace v w path path') :
      SamePlace (.obj o) (.obj o') (.key name :: path) (.key name' :: path')
  | absent {o o' : Json.Members} {name : String} (hv : Json.Members.get? name o = none)
      (hw : Json.Members.get? name o' = none) :
      SamePlace (.obj o) (.obj o') [.key name] [.key name]
  | item {vs ws : List Json} {i : Nat} {v w : Json} {path path' : List Step}
      (hv : vs[i]? = some v) (hw : ws[i]? = some w) (h : SamePlace v w path path') :
      SamePlace (.arr vs) (.arr ws) (.index i :: path) (.index i :: path')

/-- The same is wrong at the same place. -/
structure SameFault (v w : Json) (f g : Fault) : Prop where
  kind : f.kind = g.kind
  place : SamePlace v w f.path g.path

/-- Two documents are accepted as the same value, or have the same faults in the same order. -/
inductive SameOutcome {α : Type} (v w : Json) : Checked α → Checked α → Prop
  | accept (a : α) : SameOutcome v w (.accept a) (.accept a)
  | reject {fs gs : List Fault} (h : List.Forall₂ (SameFault v w) fs gs) :
      SameOutcome v w (.reject fs) (.reject gs)

/-- A reader makes no difference between related documents. -/
def Follows {α : Type} (alike : Json → Json → Prop) (read : Json → Checked α) : Prop :=
  ∀ ⦃v w : Json⦄, alike v w → SameOutcome v w (read v) (read w)

/-! ### Outcomes put together from parts -/

section

variable {α β : Type} {v w : Json}

theorem SameOutcome.refl (x : Checked α) : SameOutcome v v x x := by
  cases x with
  | accept a => exact .accept a
  | reject faults => exact .reject (List.forall₂_same.mpr fun _ _ => ⟨rfl, .same⟩)

theorem SameOutcome.fail (kind : FaultKind) :
    SameOutcome v w (.fail kind : Checked α) (.fail kind) :=
  .reject (.cons ⟨rfl, .here⟩ .nil)

theorem SameOutcome.map {x y : Checked α} (h : SameOutcome v w x y) (f : α → β) :
    SameOutcome v w (x.map f) (y.map f) := by
  cases h with
  | accept a => exact .accept (f a)
  | reject h => exact .reject h

theorem SameOutcome.both {f g : Checked (α → β)} {x y : Checked α} (hf : SameOutcome v w f g)
    (hx : SameOutcome v w x y) : SameOutcome v w (f.both x) (g.both y) := by
  cases hf with
  | accept f =>
    cases hx with
    | accept a => exact .accept (f a)
    | reject h => exact .reject h
  | reject hfirst =>
    cases hx with
    | accept a => exact .reject hfirst
    | reject h => exact .reject (List.rel_append hfirst h)

theorem SameOutcome.require {x y : Checked α} (h : SameOutcome v w x y) (rule : α → Bool)
    (reason : String) : SameOutcome v w (x.require rule reason) (y.require rule reason) := by
  cases h with
  | accept a =>
    rw [Checked.require, Checked.andThen]
    split
    · exact .accept a
    · exact .fail _
  | reject h => exact .reject h

/-- The faults of a part are at the same place of the wholes if steps lead there in both. -/
theorem SameOutcome.within {x y : Checked α} {whole whole' : Json} {step step' : Step}
    (h : SameOutcome v w x y) (hstep : ∀ {path path' : List Step}, SamePlace v w path path' →
      SamePlace whole whole' (step :: path) (step' :: path')) :
    SameOutcome whole whole' (x.within step) (y.within step') := by
  cases h with
  | accept a => exact .accept a
  | reject h =>
    refine .reject (List.rel_map (fun f g hfg => ?_) h)
    exact ⟨hfg.kind, hstep hfg.place⟩

theorem follows_eq (read : Json → Checked α) : Follows Eq read := by
  rintro v _ rfl
  exact .refl _

end

/-! ### Members of objects and items of arrays -/

section

variable {α : Type} {F : Form} {o o' : Json.Members} {k : Key} {alike : Json → Json → Prop}
  {read : Json → Checked α}

/-- A spelling belongs to one field of a form. -/
theorem Form.field_unique {f g : Field} (hf : f ∈ F.fields) (hg : g ∈ F.fields) {name : String}
    (hname : f.key.Spells name) (hname' : g.key.Spells name) : f = g := by
  have : Std.Symm fun f g : Field => f.key.Apart g.key :=
    ⟨fun f g h => ⟨h.1.symm, h.2.2.1.symm, h.2.1.symm, h.2.2.2.symm⟩⟩
  by_contra hne
  obtain ⟨hww, hwp, hpw, hpp⟩ := F.apart.forall hf hg hne
  obtain rfl | rfl := hname
  · exact hname'.elim hww hwp
  · exact hname'.elim hpw hpp

/-- What one object has under a key, the other has at the same position. -/
theorem Form.MembersRespelled.find? (h : F.MembersRespelled o o') (hf : ⟨k, alike⟩ ∈ F.fields) :
    (k.find? o = none ∧ k.find? o' = none) ∨ ∃ (i : Nat) (m m' : String × Json),
      k.find? o = some m ∧ k.find? o' = some m' ∧ o[i]? = some m ∧ o'[i]? = some m' ∧
        alike m.2 m'.2 := by
  obtain ⟨hmembers, hall⟩ := h
  have honce := hall _ hf
  clear hall
  -- Only whether a member is spelled by the key counts, and that is the same in both.
  have hspells {m m' : String × Json} (hm : F.MemberRespelled m m') :
      k.Spells m.1 ↔ k.Spells m'.1 := by
    cases hm with
    | known hg hname hname' _ =>
      constructor
      · intro hk
        cases F.field_unique hf hg hk hname
        exact hname'
      · intro hk
        cases F.field_unique hf hg hk hname'
        exact hname
    | other hm => exact Iff.rfl
  induction hmembers with
  | nil => exact .inl ⟨rfl, rfl⟩
  | @cons m m' o o' hm hrest ih =>
    obtain ⟨hfirst, honce⟩ := List.pairwise_cons.mp honce
    by_cases hk : k.Spells m.1
    · have hnone : ∀ n ∈ o, ¬ k.Spells n.1 := fun n hn hspelled => hfirst n hn ⟨hk, hspelled⟩
      have hnone' : ∀ n ∈ o', ¬ k.Spells n.1 := by
        intro n hn hspelled
        obtain ⟨n', hn', hnn'⟩ := exists_of_forall₂ hrest.flip hn
        exact hnone n' hn' ((hspells hnn').mpr hspelled)
      refine .inr ⟨0, m, m', Key.find?_cons_of_spells hk hnone,
        Key.find?_cons_of_spells ((hspells hm).mp hk) hnone', rfl, rfl, ?_⟩
      cases hm with
      | known hg hname _ hvalue =>
        cases F.field_unique hf hg hk hname
        exact hvalue
      | other hm => exact absurd hk (hm _ hf)
    · rw [Key.find?_cons_of_not_spells hk,
        Key.find?_cons_of_not_spells fun hk' => hk ((hspells hm).mpr hk')]
      obtain hnone | ⟨i, n, n', hn, hn', hi, hi', halike⟩ := ih honce
      · exact .inl hnone
      · exact .inr ⟨i + 1, n, n', hn, hn', hi, hi', halike⟩

theorem Form.MembersRespelled.optional (h : F.MembersRespelled o o')
    (i : Nat) (hf : F.fields[i]? = some ⟨k, alike⟩) (hread : Follows alike read) {absent : α} :
    SameOutcome (.obj o) (.obj o') (k.optional absent read o) (k.optional absent read o') := by
  rw [Key.optional, Key.optional]
  obtain ⟨hnone, hnone'⟩ | ⟨j, m, m', hm, hm', hj, hj', halike⟩ :=
    h.find? (List.mem_of_getElem? hf)
  · rw [hnone, hnone']
    exact .accept absent
  · rw [hm, hm']
    exact (hread halike).within fun hplace => .member hj hj' hplace

theorem Form.MembersRespelled.required (h : F.MembersRespelled o o')
    (i : Nat) (hf : F.fields[i]? = some ⟨k, alike⟩) (hread : Follows alike read) :
    SameOutcome (.obj o) (.obj o') (k.required read o) (k.required read o') := by
  rw [Key.required, Key.required]
  obtain ⟨hnone, hnone'⟩ | ⟨j, m, m', hm, hm', hj, hj', halike⟩ :=
    h.find? (List.mem_of_getElem? hf)
  · rw [hnone, hnone']
    have habsent {o : Json.Members} (hnone : k.find? o = none) :
        Json.Members.get? k.wire o = none := by
      rw [Json.Members.get?_eq_none_iff]
      exact fun m hm hwire => Key.find?_eq_none_iff.mp hnone m hm (.inl hwire)
    exact .reject (.cons ⟨rfl, .absent (habsent hnone) (habsent hnone')⟩ .nil)
  · rw [hm, hm']
    exact (hread halike).within fun hplace => .member hj hj' hplace

/-- A reader of a form follows when the reader of its members does. -/
theorem follows_readForm {origin : Origin} {form : String} {readMembers : Json.Members → Checked α}
    (h : ∀ {o o'}, F.MembersRespelled o o' →
      SameOutcome (.obj o) (.obj o') (readMembers o) (readMembers o')) :
    Follows F.Respelled (readForm origin form readMembers) := by
  intro v w hvw
  cases hvw with
  | object hmembers => exact h hmembers
  | other _ => exact .refl _

theorem Follows.nullable (h : Follows alike read)
    (hnull : ∀ {v w}, alike v w → (v = .null ↔ w = .null)) : Follows alike (nullable read) := by
  intro v w hvw
  by_cases hv : v = .null
  · have hw := (hnull hvw).mp hv
    subst hv hw
    exact .refl _
  · rw [nullable_of_ne_null hv, nullable_of_ne_null fun hw => hv ((hnull hvw).mpr hw)]
    exact (h hvw).map some

theorem Form.Respelled.null_iff {v w : Json} (h : F.Respelled v w) : v = .null ↔ w = .null := by
  cases h <;> simp

theorem ItemsRespelled.null_iff {v w : Json} (h : ItemsRespelled alike v w) :
    v = .null ↔ w = .null := by
  cases h <;> simp

/-- The items of two arrays are read alike from any position on. -/
theorem Follows.items (h : Follows alike read) (before before' : List Json) {vs ws : List Json}
    (hlength : before.length = before'.length) (hitems : List.Forall₂ alike vs ws) :
    SameOutcome (.arr (before ++ vs)) (.arr (before' ++ ws))
      (Checked.items read before.length vs) (Checked.items read before.length ws) := by
  induction hitems generalizing before before' with
  | nil => exact .accept []
  | @cons v w vs ws hvw _ ih =>
    have hrest := ih (before ++ [v]) (before' ++ [w]) (by simp [hlength])
    simp only [List.append_assoc, List.singleton_append, List.length_append,
      List.length_singleton] at hrest
    refine (((h hvw).within fun hplace => .item ?_ ?_ hplace).map List.cons).both hrest
    · simp
    · simp [hlength]

theorem Follows.tuple (h : Follows alike read) :
    Follows (ItemsRespelled alike) (readTuple read) := by
  intro v w hvw
  cases hvw with
  | array hitems => exact Follows.items h [] [] rfl hitems
  | other _ => exact .refl _

end

/-! ### The forms of a request -/

/-- A field whose values are the same in both spellings. -/
def Field.plain (k : Key) : Field := ⟨k, Eq⟩

def TextFilter.form : Form where
  fields := [.plain (.only "value"), .plain ⟨"matchType", "match_type"⟩,
    .plain ⟨"caseSensitive", "case_sensitive"⟩]

def ListFilter.form : Form where
  fields := [.plain (.only "include"), .plain (.only "exclude"),
    .plain ⟨"requireAll", "require_all"⟩]

def Range.form : Form where
  fields := [.plain (.only "min"), .plain (.only "max"), .plain (.only "inclusive")]

def CategoryFilter.form : Form where
  fields := [.plain (.only "category"), .plain ⟨"minCount", "min_count"⟩,
    .plain ⟨"maxCount", "max_count"⟩, .plain (.only "operator")]

def Filters.form : Form where
  fields := [⟨.only "domain", TextFilter.form.Respelled⟩,
    ⟨⟨"companyName", "company_name"⟩, TextFilter.form.Respelled⟩,
    ⟨.only "category", ListFilter.form.Respelled⟩,
    ⟨.only "country", ListFilter.form.Respelled⟩,
    ⟨.only "technologies", ListFilter.form.Respelled⟩,
    ⟨⟨"technologyCategories", "technology_categories"⟩,
      ItemsRespelled CategoryFilter.form.Respelled⟩,
    ⟨⟨"totalSpendRange", "total_spend_range"⟩, Range.form.Respelled⟩,
    ⟨⟨"technologyCountRange", "technology_count_range"⟩, Range.form.Respelled⟩]

def Paging.form : Form where
  fields := [.plain (.only "limit"), .plain (.only "page"), .plain ⟨"sortBy", "sort_by"⟩,
    .plain ⟨"sortOrder", "sort_order"⟩]

def SearchRequest.form : Form where
  fields := [⟨⟨"searchParams", "search_params"⟩, Filters.form.Respelled⟩,
    ⟨.only "options", Paging.form.Respelled⟩]

section

variable {origin : Origin}

theorem TextFilter.follows : Follows TextFilter.form.Respelled (TextFilter.read origin) := by
  refine follows_readForm fun h => ((SameOutcome.map ?_ _).both ?_).both ?_
  · exact h.required 0 rfl (follows_eq _)
  · exact h.optional 1 rfl (follows_eq _)
  · exact h.optional 2 rfl (follows_eq _)

theorem ListFilter.follows : Follows ListFilter.form.Respelled (ListFilter.read origin) := by
  refine follows_readForm fun h => ((SameOutcome.map ?_ _).both ?_).both ?_
  · exact h.optional 0 rfl (follows_eq _)
  · exact h.optional 1 rfl (follows_eq _)
  · exact h.optional 2 rfl (follows_eq _)

theorem Range.follows {α : Type} {read : Json → Checked α} {above : α → α → Bool} {form : String} :
    Follows Range.form.Respelled (readForm origin form (Range.readMembers read above)) := by
  refine follows_readForm fun h => (((SameOutcome.map ?_ _).both ?_).both ?_).require _ _
  · exact h.optional 0 rfl (follows_eq _)
  · exact h.optional 1 rfl (follows_eq _)
  · exact h.optional 2 rfl (follows_eq _)

theorem CategoryFilter.follows :
    Follows CategoryFilter.form.Respelled (CategoryFilter.read origin) := by
  refine follows_readForm fun h =>
    ((((SameOutcome.map ?_ _).both ?_).both ?_).both ?_).require _ _
  · exact h.required 0 rfl (follows_eq _)
  · exact h.optional 1 rfl (follows_eq _)
  · exact h.optional 2 rfl (follows_eq _)
  · exact h.optional 3 rfl (follows_eq _)

/-- Whether a text filter asks for nothing is seen from its value alone, which has one spelling. -/
theorem readTextFilter?_follows :
    Follows TextFilter.form.Respelled (readTextFilter? origin) := by
  have hnullable : Follows TextFilter.form.Respelled (nullable (TextFilter.read origin)) :=
    TextFilter.follows.nullable Form.Respelled.null_iff
  intro v w hvw
  cases hvw with
  | other _ => exact .refl _
  | @object o o' h =>
    have hvalue : Json.Members.get? "value" o = Json.Members.get? "value" o' := by
      have hfield : ⟨.only "value", Eq⟩ ∈ TextFilter.form.fields := List.mem_cons_self
      obtain ⟨hnone, hnone'⟩ | ⟨i, m, m', hm, hm', -, -, heq⟩ := h.find? hfield
      · rw [Key.find?_only, Option.map_eq_none_iff] at hnone hnone'
        rw [hnone, hnone']
      · rw [Key.find?_only, Option.map_eq_some_iff] at hm hm'
        obtain ⟨v, hv, rfl⟩ := hm
        obtain ⟨w, hw, rfl⟩ := hm'
        rw [hv, hw]
        exact congrArg some heq
    rw [readTextFilter?, readTextFilter?, hvalue]
    split
    · exact .accept none
    · exact .accept none
    · split
      · exact .accept none
      · exact hnullable (.object h)
    · exact hnullable (.object h)

theorem Filters.follows : Follows Filters.form.Respelled (Filters.read origin) := by
  have htext : Follows TextFilter.form.Respelled (readTextFilter? origin) :=
    readTextFilter?_follows
  have hlist : Follows ListFilter.form.Respelled (nullable (ListFilter.read origin)) :=
    ListFilter.follows.nullable Form.Respelled.null_iff
  have hcategory : Follows CategoryFilter.form.Respelled (CategoryFilter.read origin) :=
    CategoryFilter.follows
  have hcategories := hcategory.tuple.nullable ItemsRespelled.null_iff
  refine follows_readForm fun h => ((((((((SameOutcome.map ?_ _).both ?_).both ?_).both ?_).both
    ?_).both ?_).both ?_).both ?_)
  · exact h.optional 0 rfl htext
  · exact h.optional 1 rfl htext
  · exact h.optional 2 rfl hlist
  · exact h.optional 3 rfl hlist
  · exact h.optional 4 rfl hlist
  · exact h.optional 5 rfl hcategories
  · exact h.optional 6 rfl (Range.follows.nullable Form.Respelled.null_iff)
  · exact h.optional 7 rfl (Range.follows.nullable Form.Respelled.null_iff)

theorem Paging.follows : Follows Paging.form.Respelled (Paging.read origin) := by
  refine follows_readForm fun h => (((SameOutcome.map ?_ _).both ?_).both ?_).both ?_
  · exact h.optional 0 rfl (follows_eq _)
  · exact h.optional 1 rfl (follows_eq _)
  · exact h.optional 2 rfl (follows_eq _)
  · exact h.optional 3 rfl (follows_eq _)

theorem SearchRequest.follows :
    Follows SearchRequest.form.Respelled (SearchRequest.read origin) := by
  refine follows_readForm fun h => (SameOutcome.map ?_ _).both ?_
  · exact h.optional 0 rfl Filters.follows
  · exact h.optional 1 rfl Paging.follows

end

/-- Requests that differ only in which of its two names each member has, at any depth, are accepted
as the same request, or are rejected with the same faults in the same order, at the same places. -/
theorem spellings_equivalent (origin : Origin) {v w : Json}
    (h : SearchRequest.form.Respelled v w) :
    (∀ r, SearchRequest.read origin v = .accept r ↔ SearchRequest.read origin w = .accept r) ∧
    ∀ faults, SearchRequest.read origin v = .reject faults →
      ∃ faults', SearchRequest.read origin w = .reject faults' ∧
        List.Forall₂ (SameFault v w) faults faults' := by
  have hread : SameOutcome v w (SearchRequest.read origin v) (SearchRequest.read origin w) :=
    SearchRequest.follows h
  generalize SearchRequest.read origin v = x at hread ⊢
  generalize SearchRequest.read origin w = y at hread ⊢
  cases hread with
  | accept r =>
    refine ⟨fun _ => Iff.rfl, ?_⟩
    rintro faults ⟨⟩
  | @reject faults faults' hfaults =>
    constructor
    · intro r
      constructor <;> rintro ⟨⟩
    · rintro _ ⟨⟩
      exact ⟨faults', rfl, hfaults⟩

/-- A request that asks for no known way to compare, and for a category without its name. -/
def wireSpelled : Json := .obj
  [("searchParams", .obj
    [("companyName", .obj [("value", .str "shop"), ("matchType", .str "all")]),
      ("technologyCategories", .arr [.obj [("minCount", .int 1)]])]),
    ("options", .obj [("sort_by", .str "d.domain")])]

/-- The same request in other spellings. -/
def plainSpelled : Json := .obj
  [("search_params", .obj
    [("company_name", .obj [("value", .str "shop"), ("match_type", .str "all")]),
      ("technologyCategories", .arr [.obj [("min_count", .int 1)]])]),
    ("options", .obj [("sortBy", .str "d.domain")])]

theorem wireSpelled_respelled : SearchRequest.form.Respelled wireSpelled plainSpelled := by
  have hmember {F : Form} {f : Field} {name name' : String} {v w : Json} (i : Nat)
      (hf : F.fields[i]? = some f) (hname : f.key.Spells name) (hname' : f.key.Spells name')
      (hvalue : f.alike v w) : F.MemberRespelled (name, v) (name', w) :=
    .known (List.mem_of_getElem? hf) hname hname' hvalue
  have hcompany : TextFilter.form.Respelled
      (.obj [("value", .str "shop"), ("matchType", .str "all")])
      (.obj [("value", .str "shop"), ("match_type", .str "all")]) :=
    .object ⟨.cons (hmember 0 rfl (.inl rfl) (.inl rfl) rfl)
      (.cons (hmember 1 rfl (.inl rfl) (.inr rfl) rfl) .nil), by decide⟩
  have hcategory : CategoryFilter.form.Respelled (.obj [("minCount", .int 1)])
      (.obj [("min_count", .int 1)]) :=
    .object ⟨.cons (hmember 1 rfl (.inl rfl) (.inr rfl) rfl) .nil, by decide⟩
  have hoptions : Paging.form.Respelled (.obj [("sort_by", .str "d.domain")])
      (.obj [("sortBy", .str "d.domain")]) :=
    .object ⟨.cons (hmember 2 rfl (.inr rfl) (.inl rfl) rfl) .nil, by decide⟩
  refine .object ⟨.cons (hmember 0 rfl (.inl rfl) (.inr rfl) ?_)
    (.cons (hmember 1 rfl (.inl rfl) (.inl rfl) hoptions) .nil), by decide⟩
  exact .object ⟨.cons (hmember 1 rfl (.inl rfl) (.inr rfl) hcompany)
    (.cons (hmember 5 rfl (.inl rfl) (.inl rfl) (.array (.cons hcategory .nil))) .nil), by decide⟩

theorem spellings_equivalent_posted :
    SearchRequest.form.Respelled wireSpelled plainSpelled ∧
    ∃ faults faults', SearchRequest.read .body wireSpelled = .reject faults ∧
      SearchRequest.read .body plainSpelled = .reject faults' ∧
      faults.map (·.path) =
        [[.key "searchParams", .key "companyName", .key "matchType"],
          [.key "searchParams", .key "technologyCategories", .index 0, .key "category"]] ∧
      faults'.map (·.path) =
        [[.key "search_params", .key "company_name", .key "match_type"],
          [.key "search_params", .key "technologyCategories", .index 0, .key "category"]] ∧
      List.Forall₂ (SameFault wireSpelled plainSpelled) faults faults' := by
  obtain ⟨-, hreject⟩ := spellings_equivalent .body wireSpelled_respelled
  obtain ⟨faults', hfaults', hsame⟩ := hreject _ rfl
  cases hfaults'
  exact ⟨wireSpelled_respelled, _, _, rfl, rfl, rfl, rfl, hsame⟩

end TechCatalog.Request
