import TechCatalog.Proofs.Fitting
import TechCatalog.Proofs.WholeTexts

/-!
# Stored collections

Links, addresses, phone numbers and people of a domain are kept as texts, and nothing keeps such a
text from being anything at all. `listIn` is the list that a text stands for: the values of an array
of one kind, and nothing where the text is anything else. A profile shows these lists unless a text
is nested beyond the limit of the reader, or is an array with an item of another kind. Then there is
no profile, and one such domain leaves its whole page without profiles.
-/

namespace TechCatalog.Request.Checked

variable {α β : Type}

/-- A value that is accepted when there are no faults. -/
def acceptUnless (faults : List Fault) (a : α) : Checked α :=
  if faults = [] then .accept a else .reject faults

theorem acceptUnless_congr {faults : List Fault} {a b : α} (h : faults = [] → a = b) :
    acceptUnless faults a = acceptUnless faults b := by
  by_cases hfaults : faults = []
  · rw [h hfaults]
  · rw [acceptUnless, acceptUnless, if_neg hfaults, if_neg hfaults]

theorem acceptUnless_map (faults : List Fault) (f : α → β) (a : α) :
    (acceptUnless faults a).map f = acceptUnless faults (f a) := by
  rw [acceptUnless, acceptUnless]
  split <;> rfl

theorem acceptUnless_within (faults : List Fault) (step : Step) (a : α) :
    (acceptUnless faults a).within step =
      acceptUnless (faults.map fun f => { f with path := step :: f.path }) a := by
  cases faults <;> rfl

theorem acceptUnless_both (first second : List Fault) (f : α → β) (a : α) :
    (acceptUnless first f).both (acceptUnless second a) =
      acceptUnless (first ++ second) (f a) := by
  cases second with
  | nil =>
    rw [List.append_nil]
    cases first <;> rfl
  | cons fault rest => cases first <;> rfl

end TechCatalog.Request.Checked

namespace TechCatalog.Json

/-- A text that opens more arrays than the reader allows is not read to its end, whatever
follows. -/
theorem readValue_tooDeep (half? : Nat → Option Char) (depth : Nat) (s : List Char) :
    readValue half? depth (List.replicate (depth + 1) '[' ++ s) = .error (.tooDeep false) := by
  induction depth with
  | zero => rfl
  | succ depth ih =>
    -- The next character is a bracket again, so the first item is read one level deeper.
    have hgaps : skipGaps (List.replicate (depth + 1) '[' ++ s) =
        List.replicate (depth + 1) '[' ++ s := rfl
    rw [List.replicate_succ, List.cons_append, readValue, hgaps]
    change readItems (readValue half? depth) _ [] (List.replicate (depth + 1) '[' ++ s) = _
    rw [readItems, ih]

theorem read_tooDeep (r : Reader) (s : List Char) :
    Json.read r (String.ofList (List.replicate (r.nesting + 1) '[' ++ s)) =
      .error (.tooDeep false) := by
  have hgaps : skipGaps (List.replicate (r.nesting + 1) '[' ++ s) =
      List.replicate (r.nesting + 1) '[' ++ s := rfl
  rw [Json.read, readChars, String.toList_ofList, hgaps, readValue_tooDeep]

end TechCatalog.Json

namespace TechCatalog.Search

open Request Store Query Profile

/-- The items of the array that a stored text writes. -/
def itemsIn (r : Json.Reader) (cell : Option String) : Option (List Json) :=
  match cell.map (Json.read r) with
  | some (.ok (.arr items)) => some items
  | _ => none

/-- Whether a stored text is nested beyond the limit, and in what. -/
def nestingIn (r : Json.Reader) (cell : Option String) : Option Bool :=
  match cell.map (Json.read r) with
  | some (.error (.tooDeep inObject)) => some inObject
  | _ => none

/-- The text that a value is. -/
def text? : Json → Option String
  | .str s => some s
  | _ => none

/-- The members of the object that a value is. -/
def members? : Json → Option Json.Members
  | .obj o => some o
  | _ => none

section

variable {α : Type} {read : Json → Checked α} {value? : Json → Option α} {kind : FaultKind}

/-- The list that a stored text stands for: the values of an array that has values of one kind only,
and nothing for any other text. -/
def listIn (r : Json.Reader) (value? : Json → Option α) (cell : Option String) :
    Option (List α) :=
  (itemsIn r cell).bind fun items => items.mapM value?

/-- The faults of the items that are of another kind, positions counted from `i`. -/
def strangers (value? : Json → Option α) (kind : FaultKind) : Nat → List Json → List Fault
  | _, [] => []
  | i, v :: rest =>
    match value? v with
    | some _ => strangers value? kind (i + 1) rest
    | none => ⟨kind, [.index i]⟩ :: strangers value? kind (i + 1) rest

/-- The faults of the items of a stored array, under the name of the attribute. -/
def itemFaults (r : Json.Reader) (value? : Json → Option α) (kind : FaultKind) (name : String)
    (cell : Option String) : List Fault :=
  (strangers value? kind 0 ((itemsIn r cell).getD [])).map fun f =>
    { f with path := .key name :: f.path }

/-- A stored text is nested within the limit, and if it writes an array, all items are of the kind
that is expected. -/
def CellFits (r : Json.Reader) (value? : Json → Option α) (cell : Option String) : Prop :=
  nestingIn r cell = none ∧ ∀ items ∈ itemsIn r cell, ∀ v ∈ items, (value? v).isSome = true

/-- The reader accepts the values of one kind and has one fault for all others. -/
def ReadsKind (read : Json → Checked α) (value? : Json → Option α) (kind : FaultKind) : Prop :=
  ∀ v, read v = match value? v with
    | some a => .accept a
    | none => .fail kind

theorem strangers_eq_nil_iff (i : Nat) (vs : List Json) :
    strangers value? kind i vs = [] ↔ ∀ v ∈ vs, (value? v).isSome = true := by
  induction vs generalizing i with
  | nil => simp [strangers]
  | cons v vs ih =>
    rw [strangers, List.forall_mem_cons]
    cases hv : value? v with
    | some a => simp [ih]
    | none => simp

/-- A list of values of one kind only is taken apart as a whole. -/
theorem mapM_eq_filterMap {vs : List Json} (h : ∀ v ∈ vs, (value? v).isSome = true) :
    vs.mapM value? = some (vs.filterMap value?) := by
  induction vs with
  | nil => rfl
  | cons v vs ih =>
    rw [List.forall_mem_cons] at h
    obtain ⟨a, ha⟩ := Option.isSome_iff_exists.mp h.1
    rw [List.mapM_cons, ha, ih h.2, List.filterMap_cons_some ha]
    rfl

theorem items_eq_acceptUnless (h : ReadsKind read value? kind) (i : Nat) (vs : List Json) :
    Checked.items read i vs =
      .acceptUnless (strangers value? kind i vs) (vs.filterMap value?) := by
  induction vs generalizing i with
  | nil => rfl
  | cons v vs ih =>
    rw [Checked.items, ih, h v, strangers]
    cases hv : value? v with
    | some a =>
      rw [List.filterMap_cons_some hv]
      exact Checked.acceptUnless_both [] _ (List.cons a) _
    | none =>
      have hnone : ((Checked.fail kind : Checked α).within (.index i)).map List.cons =
          .acceptUnless [⟨kind, [.index i]⟩] (fun rest => rest) := rfl
      rw [List.filterMap_cons_none hv, hnone]
      exact Checked.acceptUnless_both [⟨kind, [.index i]⟩] _ (fun rest => rest) _

theorem collection_ofText? (r : Json.Reader) (cell : Option String) :
    collection r (.ofText? cell) = match itemsIn r cell with
    | some items => .arr items
    | none => .null := by
  cases cell with
  | none => rfl
  | some s =>
    rw [collection, Json.ofText?, parseStored, itemsIn, Option.map_some]
    cases Json.read r s with
    | ok v => cases v <;> rfl
    | error e => cases e <;> rfl

/-- A stored text is read as the list that it stands for, or has the faults of its items. -/
theorem readCell_eq (h : ReadsKind read value? kind) (r : Json.Reader) (name : String)
    (cell : Option String) :
    (nullable (readList read) (collection r (.ofText? cell))).within (.key name) =
      .acceptUnless (itemFaults r value? kind name cell) (listIn r value? cell) := by
  rw [collection_ofText?, listIn, itemFaults]
  cases itemsIn r cell with
  | none => rfl
  | some items =>
    change ((Checked.items read 0 items).map some).within (.key name) = _
    rw [items_eq_acceptUnless h, Checked.acceptUnless_map, Checked.acceptUnless_within]
    -- The list matters only where it is accepted, and there no item is of another kind.
    refine Checked.acceptUnless_congr fun hfaults => ?_
    have hkind := (strangers_eq_nil_iff 0 items).mp (List.map_eq_nil_iff.mp hfaults)
    exact (mapM_eq_filterMap hkind).symm

theorem cellFits_iff (r : Json.Reader) (value? : Json → Option α) (kind : FaultKind)
    (name : String) (cell : Option String) : CellFits r value? cell ↔
      nestingIn r cell = none ∧ itemFaults r value? kind name cell = [] := by
  rw [CellFits, itemFaults, List.map_eq_nil_iff, strangers_eq_nil_iff]
  cases itemsIn r cell <;> simp

end

theorem readText_kind : ReadsKind readText text? .notText := by
  intro v
  cases v <;> rfl

theorem readMembers_kind : ReadsKind readMembers members? .notObject := by
  intro v
  cases v <;> rfl

/-- The profile that shows of each stored text the list that it stands for. -/
def shownOf (r : Json.Reader) (d : Domain) (owned : List OwnedTechnology) : DomainProfile where
  id := d.id
  domain := d.domain
  companyName := d.companyName
  category := d.category
  country := d.country
  state := d.state
  city := d.city
  zipCode := d.zipCode
  socialLinks := listIn r text? d.socialLinks
  emails := listIn r text? d.emails
  phones := listIn r text? d.phones
  people := listIn r members? d.people
  createdAt := some d.createdAt
  updatedAt := some d.updatedAt
  technologies := owned
  summary := summarize owned

/-- The faults of all stored arrays of a domain. -/
def wrongItems (r : Json.Reader) (d : Domain) : List Fault :=
  itemFaults r text? .notText "social_links" d.socialLinks ++
    itemFaults r text? .notText "emails" d.emails ++
    itemFaults r text? .notText "phones" d.phones ++
    itemFaults r members? .notObject "people" d.people

/-- The first of the stored texts of a domain that is nested beyond the limit: in what it is. -/
def deepNesting (r : Json.Reader) (d : Domain) : Option Bool :=
  [d.socialLinks, d.emails, d.phones, d.people].findSome? (nestingIn r)

/-- Every stored text of a domain can be shown. -/
structure Showable (r : Json.Reader) (d : Domain) : Prop where
  socialLinks : CellFits r text? d.socialLinks
  emails : CellFits r text? d.emails
  phones : CellFits r text? d.phones
  people : CellFits r members? d.people

theorem showable_iff (r : Json.Reader) (d : Domain) :
    Showable r d ↔ deepNesting r d = none ∧ wrongItems r d = [] := by
  have hlinks := cellFits_iff r text? .notText "social_links" d.socialLinks
  have hemails := cellFits_iff r text? .notText "emails" d.emails
  have hphones := cellFits_iff r text? .notText "phones" d.phones
  have hpeople := cellFits_iff r members? .notObject "people" d.people
  rw [deepNesting, wrongItems, List.findSome?_eq_none_iff]
  simp only [List.forall_mem_cons, List.append_eq_nil_iff]
  constructor
  · rintro ⟨h1, h2, h3, h4⟩
    rw [hlinks] at h1
    rw [hemails] at h2
    rw [hphones] at h3
    rw [hpeople] at h4
    exact ⟨⟨h1.1, h2.1, h3.1, h4.1, List.forall_mem_nil _⟩, ⟨⟨h1.2, h2.2⟩, h3.2⟩, h4.2⟩
  · rintro ⟨⟨n1, n2, n3, n4, -⟩, ⟨⟨w1, w2⟩, w3⟩, w4⟩
    exact ⟨hlinks.mpr ⟨n1, w1⟩, hemails.mpr ⟨n2, w2⟩, hphones.mpr ⟨n3, w3⟩, hpeople.mpr ⟨n4, w4⟩⟩

instance (r : Json.Reader) (d : Domain) : Decidable (Showable r d) :=
  decidable_of_iff _ (showable_iff r d).symm

theorem profileOf_eq (r : Json.Reader) (d : Domain) (owned : List OwnedTechnology) :
    profileOf r d owned = .acceptUnless (wrongItems r d) (shownOf r d owned) := by
  have htexts (name : String) (cell : Option String) :
      (readTexts r (.ofText? cell)).within (.key name) =
        .acceptUnless (itemFaults r text? .notText name cell) (listIn r text? cell) :=
    readCell_eq readText_kind r name cell
  have hpeople : (readPeople r (.ofText? d.people)).within (.key "people") =
      .acceptUnless (itemFaults r members? .notObject "people" d.people)
        (listIn r members? d.people) :=
    readCell_eq readMembers_kind r "people" d.people
  have hmake (make : Option (List String) → Option (List String) → Option (List String) →
      Option (List Json.Members) → DomainProfile) :
      Checked.accept make = .acceptUnless [] make := rfl
  simp only [profileOf, htexts, hpeople, hmake, Checked.acceptUnless_both, List.nil_append]
  rfl

/-- Whether what is stored turned out to be nested beyond the limit, and in what. -/
def nestingOf (stored : Option (Except Bool Json)) : Option Bool :=
  match stored with
  | some (.error inObject) => some inObject
  | _ => none

theorem nestingOf_parseStored (r : Json.Reader) (cell : Option String) :
    nestingOf (some (parseStored r (.ofText? cell))) = nestingIn r cell := by
  cases cell with
  | none => rfl
  | some s =>
    rw [Json.ofText?, parseStored, nestingIn, Option.map_some]
    cases Json.read r s with
    | ok v => rfl
    | error e => cases e <;> rfl

theorem nestingFault?_eq (r : Json.Reader) (d : Domain) :
    DomainProfile.nestingFault? r (storedCollections d) = deepNesting r d := by
  simp only [deepNesting, List.findSome?_cons, ← nestingOf_parseStored]
  rfl

/-- A domain has the profile that shows what its stored texts stand for, unless one of them is
nested beyond the limit or is an array with an item of another kind. -/
theorem profile_eq (r : Json.Reader) (d : Domain) (owned : List OwnedTechnology) :
    profile r d owned = match deepNesting r d with
    | some inObject => .error (.tooDeep inObject)
    | none =>
      if wrongItems r d = [] then .ok (shownOf r d owned)
      else .error (.badProfile (wrongItems r d)) := by
  rw [profile, nestingFault?_eq, profileOf_eq, Checked.acceptUnless]
  cases deepNesting r d with
  | some inObject => rfl
  | none =>
    by_cases hwrong : wrongItems r d = []
    · simp only [if_pos hwrong]
    · simp only [if_neg hwrong]

theorem profile_ok_iff {r : Json.Reader} {d : Domain} {owned : List OwnedTechnology}
    {q : DomainProfile} : profile r d owned = .ok q ↔ Showable r d ∧ q = shownOf r d owned := by
  rw [profile_eq, showable_iff]
  cases deepNesting r d with
  | some inObject => simp
  | none =>
    by_cases hwrong : wrongItems r d = []
    · simp [hwrong, eq_comm]
    · simp [hwrong]

/-- The profiles of domains whose stored texts can be shown are made one by one. -/
theorem mapM_profile {r : Json.Reader} {page : List Domain}
    (owned : Domain → List OwnedTechnology) (h : ∀ d ∈ page, Showable r d) :
    (page.mapM fun d => profile r d (owned d)) =
      .ok (page.map fun d => shownOf r d (owned d)) := by
  rw [mapM_eq_ok, List.forall₂_map_right_iff, List.forall₂_same]
  exact fun d hd => profile_ok_iff.mpr ⟨h d hd, rfl⟩

/-- No stored text of a domain has half a character alone. -/
def WholeCells (r : Json.Reader) (d : Domain) : Prop :=
  ∀ cell ∈ [d.socialLinks, d.emails, d.phones, d.people], ∀ s ∈ cell, Json.IsWhole r s

theorem listIn_eq_of_whole {α : Type} {r r' : Json.Reader} (hnesting : r'.nesting = r.nesting)
    (value? : Json → Option α) {cell : Option String} (h : ∀ s ∈ cell, Json.IsWhole r s) :
    listIn r' value? cell = listIn r value? cell := by
  cases cell with
  | none => rfl
  | some s =>
    have hread := Json.read_eq_of_whole (h s rfl) hnesting
    rw [listIn, listIn, itemsIn, itemsIn, Option.map_some, Option.map_some, hread]

/-- What readers put in the place of half a character is shown of no other text. -/
theorem shownOf_eq_of_whole {r r' : Json.Reader} (hnesting : r'.nesting = r.nesting) {d : Domain}
    (h : WholeCells r d) (owned : List OwnedTechnology) :
    shownOf r' d owned = shownOf r d owned := by
  simp only [WholeCells, List.forall_mem_cons] at h
  obtain ⟨hlinks, hemails, hphones, hpeople, -⟩ := h
  simp only [shownOf, listIn_eq_of_whole hnesting text? hlinks,
    listIn_eq_of_whole hnesting text? hemails, listIn_eq_of_whole hnesting text? hphones,
    listIn_eq_of_whole hnesting members? hpeople]

section

variable (db : Database) {page : List Domain}

/-- Where the technologies can be asked for, they are loaded at once, and then each profile is
made. -/
theorem profiles_eq (hlacks : db.lacks? [.links, .technologies] (qualifiedColumns ownedColumns) =
    none) (hids : ∀ d ∈ page, fits d.id = true) (hsize : page.length ≤ db.platform.variableLimit)
    (hpage : page ≠ []) : profiles db page =
      { result := page.mapM fun d =>
          profile db.platform.reader d (technologiesIn (ownedRows db (page.map (·.id))) d.id)
        records := [loadedRecord page.length]
        statements := 1 } := by
  rw [← List.length_map (f := (·.id))] at hsize
  exact profiles_of_loaded hpage
    (loadTechnologies_eq_ok.mpr ⟨hsize, hlacks, List.forall_mem_map.mpr hids, rfl⟩)

theorem profiles_result_eq (hlacks : db.lacks? [.links, .technologies]
    (qualifiedColumns ownedColumns) = none) (hids : ∀ d ∈ page, fits d.id = true)
    (hsize : page.length ≤ db.platform.variableLimit) :
    (profiles db page).result = page.mapM fun d =>
      profile db.platform.reader d (technologiesIn (ownedRows db (page.map (·.id))) d.id) := by
  by_cases hpage : page = []
  · subst hpage
    rfl
  · rw [profiles_eq db hlacks hids hsize hpage]

/-- The technologies of more domains than a statement may bind numbers of cannot be asked for. -/
theorem profiles_tooMany (hsize : db.platform.variableLimit < page.length) :
    (profiles db page).result = .error (.run (.store .tooManyVariables)) := by
  have hpage : page ≠ [] := List.ne_nil_of_length_pos (Nat.zero_lt_of_lt hsize)
  have hload : loadTechnologies db (page.map (·.id)) = .error (.store .tooManyVariables) := by
    rw [loadTechnologies, List.length_map, if_pos hsize]
  rw [profiles_of_not_loaded hpage hload]

/-- A page of domains is shown domain by domain: each has the profile that shows what its stored
texts stand for, unless one of them is nested beyond the limit or is an array with an item of
another kind. One such domain leaves the page without profiles, and so do more domains than a
statement may bind. Only a text that writes half a character alone is shown as the reader sees
fit. -/
theorem collections_shown_or_refused (htables : db.droppedTables = [])
    (hcolumns : db.droppedColumns = []) (hids : ∀ d ∈ page, fits d.id = true) :
    ((profiles db page).result =
      if db.platform.variableLimit < page.length then .error (.run (.store .tooManyVariables))
      else page.mapM fun d =>
        match deepNesting db.platform.reader d with
        | some inObject => .error (.tooDeep inObject)
        | none =>
          if wrongItems db.platform.reader d = [] then
            .ok (shownOf db.platform.reader d
              (technologiesIn (ownedRows db (page.map (·.id))) d.id))
          else .error (.badProfile (wrongItems db.platform.reader d))) ∧
    ((∃ shown, (profiles db page).result = .ok shown) ↔
      page.length ≤ db.platform.variableLimit ∧ ∀ d ∈ page, Showable db.platform.reader d) ∧
    ∀ d ∈ page, WholeCells db.platform.reader d →
      ∀ (r : Json.Reader) (owned : List OwnedTechnology),
        r.nesting = db.platform.reader.nesting →
        shownOf r d owned = shownOf db.platform.reader d owned := by
  have hlacks := lacks_eq_none htables hcolumns [.links, .technologies]
    (qualifiedColumns ownedColumns)
  refine ⟨?_, ?_, fun d _ hwhole r owned hnesting => shownOf_eq_of_whole hnesting hwhole owned⟩
  · split
    · rename_i hsize
      exact profiles_tooMany db hsize
    · rename_i hsize
      rw [profiles_result_eq db hlacks hids (Nat.not_lt.mp hsize)]
      simp only [profile_eq]
  by_cases hsize : page.length ≤ db.platform.variableLimit
  · rw [profiles_result_eq db hlacks hids hsize]
    constructor
    · rintro ⟨shown, hshown⟩
      refine ⟨hsize, fun d hd => ?_⟩
      obtain ⟨q, -, hq⟩ := exists_of_forall₂ (mapM_eq_ok.mp hshown) hd
      exact (profile_ok_iff.mp hq).1
    · rintro ⟨-, hshowable⟩
      exact ⟨_, mapM_profile _ hshowable⟩
  · rw [profiles_tooMany db (Nat.not_le.mp hsize)]
    constructor
    · rintro ⟨shown, hshown⟩
      cases hshown
    · rintro ⟨hle, -⟩
      exact absurd hle hsize

end

/-- A domain with texts of every kind: an array of texts, no document, an object, and an array of
objects. -/
def mixedTexts : Domain where
  id := 1
  socialLinks := some "[\"https://x.com/acme\"]"
  emails := some "\x7bbroken"
  phones := some "\x7b\"not\": \"a list\"\x7d"
  people := some "[\x7b\"Name\": \"Ada\"\x7d]"

theorem mixedTexts_showable : Showable {} mixedTexts :=
  (showable_iff _ _).mpr ⟨rfl, rfl⟩

theorem mixedTexts_whole : WholeCells {} mixedTexts := by
  simp only [WholeCells, List.forall_mem_cons]
  refine ⟨?_, ?_, ?_, ?_, List.forall_mem_nil _⟩
  all_goals
    intro s hs
    cases hs
    exact nofun

theorem collections_shown_mixed :
    (∃ shown, (profiles { domains := [mixedTexts] } [mixedTexts]).result = .ok shown) ∧
    listIn {} text? mixedTexts.socialLinks = some ["https://x.com/acme"] ∧
    listIn {} text? mixedTexts.emails = none ∧ listIn {} text? mixedTexts.phones = none ∧
    (listIn {} members? mixedTexts.people).isSome = true ∧
    shownOf (Json.Reader.strict {}) mixedTexts [] = shownOf {} mixedTexts [] := by
  have hids : ∀ d ∈ [mixedTexts], fits d.id = true := List.forall_mem_singleton.mpr rfl
  obtain ⟨-, hpage, hwhole⟩ :=
    collections_shown_or_refused { domains := [mixedTexts] } rfl rfl hids
  refine ⟨hpage.mpr ⟨by decide, ?_⟩, rfl, rfl, rfl, rfl, ?_⟩
  · rw [List.forall_mem_singleton]
    exact mixedTexts_showable
  · exact hwhole mixedTexts (List.mem_singleton.mpr rfl) mixedTexts_whole _ [] rfl

/-- A domain with an address that is a number. -/
def numberedMail : Domain where
  id := 1
  emails := some "[1]"

/-- A domain with addresses in so many arrays. -/
def nestedMail (depth : Nat) : Domain where
  id := 1
  emails := some (String.ofList (List.replicate depth '[' ++ List.replicate depth ']'))

/-- Addresses in one array more than the reader opens stand for no list, and the reader gives up on
them. -/
theorem nestedMail_tooDeep (r : Json.Reader) :
    listIn r text? (nestedMail (r.nesting + 1)).emails = none ∧
      deepNesting r (nestedMail (r.nesting + 1)) = some false := by
  have hread := Json.read_tooDeep r (List.replicate (r.nesting + 1) ']')
  constructor
  · rw [listIn, nestedMail, itemsIn, Option.map_some, hread]
    rfl
  · have hlinks : nestingIn r (nestedMail (r.nesting + 1)).socialLinks = none := rfl
    have hemails : nestingIn r (nestedMail (r.nesting + 1)).emails = some false := by
      rw [nestingIn, nestedMail, Option.map_some, hread]
    rw [deepNesting, List.findSome?_cons, hlinks, List.findSome?_cons, hemails]

theorem profiles_of_tooDeep {db : Database} {d : Domain} (htables : db.droppedTables = [])
    (hcolumns : db.droppedColumns = []) (hid : fits d.id = true)
    (hsize : 1 ≤ db.platform.variableLimit)
    (hdeep : deepNesting db.platform.reader d = some false) :
    (profiles db [d]).result = .error (.tooDeep false) := by
  rw [profiles_result_eq db (lacks_eq_none htables hcolumns _ _)
    (List.forall_mem_singleton.mpr hid) hsize, List.mapM_cons, profile_eq, hdeep]
  rfl

/-- Texts that stand for no list leave a domain without a profile, and its page with it. -/
theorem unlisted_texts_refused :
    listIn {} text? numberedMail.emails = none ∧ listIn {} text? (nestedMail 971).emails = none ∧
    (profiles { domains := [numberedMail] } [numberedMail]).result =
      .error (.badProfile [⟨.notText, [.key "emails", .index 0]⟩]) ∧
    (profiles { domains := [nestedMail 971] } [nestedMail 971]).result =
      .error (.tooDeep false) := by
  obtain ⟨hnone, hdeep⟩ := nestedMail_tooDeep {}
  refine ⟨rfl, hnone, ?_, profiles_of_tooDeep rfl rfl rfl (by decide) hdeep⟩
  rw [profiles_result_eq _ rfl (List.forall_mem_singleton.mpr rfl) (by decide), List.mapM_cons,
    profile_eq]
  rfl

end TechCatalog.Search
