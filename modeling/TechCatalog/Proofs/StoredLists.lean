import TechCatalog.Proofs.Collections
import TechCatalog.Proofs.WrittenDocuments

/-!
# Lists that survive storage

Where a column holds a list of texts or of people as a document, the profile of the domain shows
this very list. What the characters of the texts are makes no difference, nor whether the document
was escaped to ASCII. People are objects of any members, as long as their values are not nested too
deeply.
-/

namespace TechCatalog.Search

open Request Store Query Profile

/-- A column holds a list of values as a document, escaped to ASCII or not. -/
def HoldsItems (cell : Option String) (items : List Json) : Prop :=
  ∃ ascii, cell = some (Json.write { Json.spaced with ascii } (.arr items))

/-- A column holds a list of texts. -/
def HoldsTexts (cell : Option String) (xs : List String) : Prop :=
  HoldsItems cell (xs.map .str)

/-- The members of a person: each key stands once, and no value is nested more than a hundred
levels deep. -/
def IsPerson (o : Json.Members) : Prop :=
  (o.map (·.1)).Nodup ∧ ∀ m ∈ o, Json.Storable 100 m.2

/-- A column holds a list of people. -/
def HoldsPeople (cell : Option String) (people : List Json.Members) : Prop :=
  (∀ o ∈ people, IsPerson o) ∧ HoldsItems cell (people.map .obj)

/-- Every column of a domain holds a list, or anything else that can be shown. -/
structure WellKept (r : Json.Reader) (d : Domain) : Prop where
  socialLinks : (∃ xs, HoldsTexts d.socialLinks xs) ∨ CellFits r text? d.socialLinks
  emails : (∃ xs, HoldsTexts d.emails xs) ∨ CellFits r text? d.emails
  phones : (∃ xs, HoldsTexts d.phones xs) ∨ CellFits r text? d.phones
  people : (∃ people, HoldsPeople d.people people) ∨ CellFits r members? d.people

/-- A profile shows the lists that the columns of a domain hold. -/
structure ShowsKept (d : Domain) (p : DomainProfile) : Prop where
  socialLinks : ∀ xs, HoldsTexts d.socialLinks xs → p.socialLinks = some xs
  emails : ∀ xs, HoldsTexts d.emails xs → p.emails = some xs
  phones : ∀ xs, HoldsTexts d.phones xs → p.phones = some xs
  people : ∀ people, HoldsPeople d.people people → p.people = some people

section

-- A list of people takes one level for itself and one for each person.
variable {r : Json.Reader} (hr : 102 ≤ r.nesting)
include hr

section

variable {α : Type} {value? : Json → Option α} {wrap : α → Json} {cell : Option String}
  {xs : List α}

/-- A document of values that can be stored is read as the list of these values. -/
theorem read_of_holdsItems (h : HoldsItems cell (xs.map wrap))
    (hstorable : ∀ x ∈ xs, Json.Storable 101 (wrap x)) :
    cell.map (Json.read r) = some (.ok (.arr (xs.map wrap))) := by
  obtain ⟨ascii, rfl⟩ := h
  have hlist : Json.Storable r.nesting (.arr (xs.map wrap)) :=
    (Json.Storable.arr (List.forall_mem_map.mpr hstorable)).mono hr
  rw [Option.map_some, Json.read_write (Json.spaced_isReadable ascii) hlist]

omit hr in
theorem mapM_map_wrap (hwrap : ∀ x, value? (wrap x) = some x) (xs : List α) :
    (xs.map wrap).mapM value? = some xs := by
  induction xs with
  | nil => rfl
  | cons x xs ih =>
    rw [List.map_cons, List.mapM_cons, hwrap, ih]
    rfl

theorem listIn_of_holdsItems (hwrap : ∀ x, value? (wrap x) = some x)
    (h : HoldsItems cell (xs.map wrap)) (hstorable : ∀ x ∈ xs, Json.Storable 101 (wrap x)) :
    listIn r value? cell = some xs := by
  rw [listIn, itemsIn, read_of_holdsItems hr h hstorable]
  exact mapM_map_wrap hwrap xs

theorem cellFits_of_holdsItems (hwrap : ∀ x, value? (wrap x) = some x)
    (h : HoldsItems cell (xs.map wrap)) (hstorable : ∀ x ∈ xs, Json.Storable 101 (wrap x)) :
    CellFits r value? cell := by
  have hread := read_of_holdsItems hr h hstorable
  constructor
  · rw [nestingIn, hread]
  · rw [itemsIn, hread]
    rintro _ ⟨⟩
    rw [List.forall_mem_map]
    intro x _
    rw [hwrap, Option.isSome_some]

end

section

variable {cell : Option String} {xs : List String} {people : List Json.Members}

omit hr in
theorem storable_of_isPerson {o : Json.Members} (h : IsPerson o) : Json.Storable 101 (.obj o) :=
  .obj h.1 h.2

theorem HoldsTexts.listIn_eq (h : HoldsTexts cell xs) : listIn r text? cell = some xs :=
  listIn_of_holdsItems hr (fun _ => rfl) h fun s _ => .str 101 s

theorem HoldsTexts.fits (h : HoldsTexts cell xs) : CellFits r text? cell :=
  cellFits_of_holdsItems hr (fun _ => rfl) h fun s _ => .str 101 s

theorem HoldsPeople.listIn_eq (h : HoldsPeople cell people) :
    listIn r members? cell = some people :=
  listIn_of_holdsItems hr (fun _ => rfl) h.2 fun o ho => storable_of_isPerson (h.1 o ho)

theorem HoldsPeople.fits (h : HoldsPeople cell people) : CellFits r members? cell :=
  cellFits_of_holdsItems hr (fun _ => rfl) h.2 fun o ho => storable_of_isPerson (h.1 o ho)

end

theorem WellKept.showable {d : Domain} (h : WellKept r d) : Showable r d where
  socialLinks := h.socialLinks.elim (fun ⟨_, hxs⟩ => hxs.fits hr) id
  emails := h.emails.elim (fun ⟨_, hxs⟩ => hxs.fits hr) id
  phones := h.phones.elim (fun ⟨_, hxs⟩ => hxs.fits hr) id
  people := h.people.elim (fun ⟨_, hpeople⟩ => hpeople.fits hr) id

theorem showsKept_shownOf (d : Domain) (owned : List OwnedTechnology) :
    ShowsKept d (shownOf r d owned) where
  socialLinks := fun _ h => h.listIn_eq hr
  emails := fun _ h => h.listIn_eq hr
  phones := fun _ h => h.listIn_eq hr
  people := fun _ h => h.listIn_eq hr

end

/-- A page of domains whose columns hold lists, or anything else that can be shown, is shown with
these very lists. -/
theorem stored_lists_survive (db : Database) {page : List Domain}
    (hlacks : db.lacks? [.links, .technologies] (qualifiedColumns ownedColumns) = none)
    (hids : ∀ d ∈ page, fits d.id = true) (hsize : page.length ≤ db.platform.variableLimit)
    (hreader : 102 ≤ db.platform.reader.nesting)
    (hkept : ∀ d ∈ page, WellKept db.platform.reader d) :
    ∃ shown, (profiles db page).result = .ok shown ∧ List.Forall₂ ShowsKept page shown := by
  have hshown := mapM_profile (fun d => technologiesIn (ownedRows db (page.map (·.id))) d.id)
    fun d hd => (hkept d hd).showable hreader
  rw [← profiles_result_eq db hlacks hids hsize] at hshown
  refine ⟨_, hshown, ?_⟩
  rw [List.forall₂_map_right_iff, List.forall₂_same]
  exact fun d _ => showsKept_shownOf hreader d _

/-- Texts with quotes, control characters and characters beyond the basic plane. -/
def oddTexts : List String :=
  ["\"\\", "\n\x01\x7f", "é𝄞"]

/-- A person with values of every kind. -/
def oddPerson : Json.Members :=
  [("name", .str "\"😀"), ("age", .int (-36)), ("tags", .arr [.null, .bool true, .obj []])]

/-- A domain with these, in part escaped to ASCII, and with a text that is no document. -/
def oddDomain : Domain where
  id := 1
  socialLinks := some "[\"\\\"\\\\\", \"\\n\\u0001\\u007f\", \"\\u00e9\\ud834\\udd1e\"]"
  emails := some "[\"\\\"\\\\\", \"\\n\\u0001\x7f\", \"é𝄞\"]"
  phones := some "none"
  people := some ("[\x7b\"name\": \"\\\"\\ud83d\\ude00\", \"age\": -36, " ++
    "\"tags\": [null, true, \x7b\x7d]\x7d]")

theorem holdsTexts_odd : HoldsTexts oddDomain.socialLinks oddTexts ∧
    HoldsTexts oddDomain.emails oddTexts :=
  ⟨⟨true, by decide +kernel⟩, ⟨false, by decide +kernel⟩⟩

theorem isPerson_odd : IsPerson oddPerson := by
  refine ⟨by decide, ?_⟩
  simp only [oddPerson, List.forall_mem_cons]
  refine ⟨.str _ _, .int _ (by decide), .arr ?_, List.forall_mem_nil _⟩
  simp only [List.forall_mem_cons]
  exact ⟨.null _, .bool _ _, .obj .nil (List.forall_mem_nil _), List.forall_mem_nil _⟩

theorem holdsPeople_odd : HoldsPeople oddDomain.people [oddPerson] :=
  ⟨List.forall_mem_singleton.mpr isPerson_odd, true, by decide +kernel⟩

theorem cellFits_odd : CellFits {} text? oddDomain.phones := by
  have hnone : itemsIn {} oddDomain.phones = none := rfl
  refine ⟨rfl, fun items hitems => ?_⟩
  rw [hnone] at hitems
  exact absurd hitems (Option.not_mem_none items)

theorem wellKept_odd : WellKept {} oddDomain where
  socialLinks := .inl ⟨_, holdsTexts_odd.1⟩
  emails := .inl ⟨_, holdsTexts_odd.2⟩
  phones := .inr cellFits_odd
  people := .inl ⟨_, holdsPeople_odd⟩

theorem stored_lists_survive_odd :
    ∃ p, (profiles { domains := [oddDomain] } [oddDomain]).result = .ok [p] ∧
      p.socialLinks = some oddTexts ∧ p.emails = some oddTexts ∧
      p.people = some [oddPerson] := by
  have hids : ∀ d ∈ [oddDomain], fits d.id = true := List.forall_mem_singleton.mpr rfl
  have hkept : ∀ d ∈ [oddDomain], WellKept {} d := List.forall_mem_singleton.mpr wellKept_odd
  obtain ⟨shown, hshown, hlists⟩ :=
    stored_lists_survive { domains := [oddDomain] } rfl hids (by decide) (by decide) hkept
  obtain ⟨p, rest, hp, hrest, rfl⟩ := List.forall₂_cons_left_iff.mp hlists
  obtain rfl := List.forall₂_nil_left_iff.mp hrest
  exact ⟨p, hshown, hp.socialLinks _ holdsTexts_odd.1, hp.emails _ holdsTexts_odd.2,
    hp.people _ holdsPeople_odd⟩

end TechCatalog.Search
