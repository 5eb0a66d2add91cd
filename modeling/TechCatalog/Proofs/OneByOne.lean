import TechCatalog.Proofs.OwnLinks
import TechCatalog.Proofs.RebuiltFigures

/-!
# Profiles of a page and of its domains one by one

The technologies of a page are loaded with one statement, as rows of all its domains together, and
each profile takes its own rows from them. What a profile shows does not depend on the page it is
on: the profiles of a page are the profiles of its domains, each asked for alone. Only a page with
more domains than a statement may bind numbers of has none, because nothing is loaded for it.
-/

namespace TechCatalog

/-- A step that gives one item for each item may as well give a list of one for each. -/
theorem mapM_eq_flatten {ε α β : Type} {step : α → Except ε β} {alone : α → Except ε (List β)}
    {xs : List α} (h : ∀ x ∈ xs, alone x = (step x).map fun y => [y]) :
    xs.mapM step = (xs.mapM alone).map List.flatten := by
  induction xs with
  | nil => rfl
  | cons x xs ih =>
    rw [List.forall_mem_cons] at h
    rw [List.mapM_cons, List.mapM_cons, ih h.2, h.1]
    cases step x with
    | error e => rfl
    | ok y => cases xs.mapM alone <;> rfl

end TechCatalog

namespace TechCatalog.Search

open Request Store Query Profile

/-- Showing a page takes one statement, and none if there is nothing to show. -/
theorem statements_profiles (db : Database) (page : List Domain) :
    (profiles db page).statements = if page = [] then 0 else 1 := by
  cases page with
  | nil => rfl
  | cons d rest =>
    rw [if_neg (List.cons_ne_nil d rest)]
    cases hload : loadTechnologies db ((d :: rest).map (·.id)) with
    | error e => rw [profiles_of_not_loaded (List.cons_ne_nil d rest) hload]
    | ok rows => rw [profiles_of_loaded (List.cons_ne_nil d rest) hload]

/-- Technologies are only loaded for as many domains as a statement may bind, and for domains whose
numbers the store has room for. -/
theorem fits_of_profiles {db : Database} {page : List Domain} {shown : List DomainProfile}
    (h : (profiles db page).result = .ok shown) :
    page.length ≤ db.platform.variableLimit ∧ ∀ d ∈ page, fits d.id = true := by
  by_cases hpage : page = []
  · subst hpage
    exact ⟨Nat.zero_le _, List.forall_mem_nil _⟩
  · obtain ⟨rows, hload, -⟩ := (profiles_eq_ok hpage).mp h
    obtain ⟨hsize, -, hids, -⟩ := loadTechnologies_eq_ok.mp hload
    rw [List.length_map] at hsize
    exact ⟨hsize, List.forall_mem_map.mp hids⟩

/-- What comes of a page is what comes of its domains, each asked for alone. -/
theorem profiles_eq_flatten {db : Database} (h : db.Sound) (htables : db.droppedTables = [])
    (hcolumns : db.droppedColumns = []) {page : List Domain}
    (hids : ∀ d ∈ page, fits d.id = true) (hsize : page.length ≤ db.platform.variableLimit) :
    (profiles db page).result =
      (page.mapM fun d => (profiles db [d]).result).map List.flatten := by
  have hlacks := lacks_eq_none htables hcolumns [.links, .technologies]
    (qualifiedColumns ownedColumns)
  have halone : ∀ d ∈ page, (profiles db [d]).result =
      (profile db.platform.reader d (technologiesIn (ownedRows db (page.map (·.id))) d.id)).map
        fun q => [q] := by
    intro d hd
    have hroom : [d].length ≤ db.platform.variableLimit :=
      Nat.le_trans (List.length_pos_of_mem hd) hsize
    have hone := profiles_result_eq db hlacks (List.forall_mem_singleton.mpr (hids d hd)) hroom
    -- Other rows are loaded for the page, but the domain finds the same of its own among them.
    rw [hone, technologiesIn_congr h (List.mem_map_of_mem hd) List.mem_cons_self]
    cases hprofile : profile db.platform.reader d (technologiesIn (ownedRows db [d.id]) d.id) with
    | error e => simp [hprofile, bind, Except.bind, Except.map]
    | ok q => simp [hprofile, bind, Except.bind, Except.map, pure, Except.pure]
  exact (profiles_result_eq db hlacks hids hsize).trans (mapM_eq_flatten halone)

/-- A page takes one statement. There are profiles where a statement may bind as many numbers and
every text that the domains keep can be shown, and they are those of the domains, each asked for
alone, put one after the other. Each of them shows its own domain. -/
theorem profiles_one_by_one {db : Database} (h : db.Sound) (htables : db.droppedTables = [])
    (hcolumns : db.droppedColumns = []) (page : List Domain) :
    (profiles db page).statements = (if page = [] then 0 else 1) ∧
    ((∃ shown, (profiles db page).result = .ok shown) ↔
      page.length ≤ db.platform.variableLimit ∧
        ∀ d ∈ page, fits d.id = true ∧ Showable db.platform.reader d) ∧
    (db.platform.variableLimit < page.length →
      (profiles db page).result = .error (.run (.store .tooManyVariables))) ∧
    ∀ shown, (profiles db page).result = .ok shown →
      (page.mapM fun d => (profiles db [d]).result).map List.flatten = .ok shown ∧
      List.Forall₂ (fun d q => ∃ pairs, ShowsOwn db d pairs q) page shown := by
  have hlacks := lacks_eq_none htables hcolumns [.links, .technologies]
    (qualifiedColumns ownedColumns)
  refine ⟨statements_profiles db page, ⟨?_, ?_⟩, profiles_tooMany db, fun shown hshown => ⟨?_, ?_⟩⟩
  · rintro ⟨shown, hshown⟩
    obtain ⟨hsize, hids⟩ := fits_of_profiles hshown
    rw [profiles_result_eq db hlacks hids hsize] at hshown
    refine ⟨hsize, fun d hd => ?_⟩
    obtain ⟨q, -, hq⟩ := exists_of_forall₂ (mapM_eq_ok.mp hshown) hd
    exact ⟨hids d hd, (profile_ok_iff.mp hq).1⟩
  · rintro ⟨hsize, hpage⟩
    have hids : ∀ d ∈ page, fits d.id = true := fun d hd => (hpage d hd).1
    have hmade := mapM_profile (fun d => technologiesIn (ownedRows db (page.map (·.id))) d.id)
      fun d hd => (hpage d hd).2
    exact ⟨_, (profiles_result_eq db hlacks hids hsize).trans hmade⟩
  · obtain ⟨hsize, hids⟩ := fits_of_profiles hshown
    rw [← profiles_eq_flatten h htables hcolumns hids hsize, hshown]
  · obtain ⟨hsize, hids⟩ := fits_of_profiles hshown
    rw [profiles_result_eq db hlacks hids hsize] at hshown
    exact showsOwn_of_mapM h hshown

theorem ShowsOwn.perm {db : Database} (h : db.Sound) {d : Domain}
    {pairs : List (Link × Technology)} {q : DomainProfile} (hq : ShowsOwn db d pairs q) :
    pairs.Perm (ownedLinks db d.id) := by
  refine (List.perm_ext_iff_of_nodup hq.nodup (ownedLinks_nodup h d.id)).mpr ?_
  rintro ⟨l, t⟩
  rw [hq.mem_iff, mem_ownedLinks h]

/-- The names on a profile are those of the technologies of the links, in order. -/
theorem ShowsOwn.names_eq {db : Database} (h : db.Sound) {d : Domain}
    {pairs : List (Link × Technology)} {q : DomainProfile} (hq : ShowsOwn db d pairs q)
    {names : List String} (hnames : names.Perm ((ownedLinks db d.id).map (·.2.name)))
    (hsorted : names.Pairwise (· < ·)) : q.technologies.map (·.name) = names := by
  rw [hq.technologies, List.map_map]
  refine List.Perm.eq_of_pairwise ?_ (List.pairwise_map.mpr hq.sorted) hsorted
    (((hq.perm h).map _).trans hnames.symm)
  intro v w _ _ hvw hwv
  exact absurd hwv hvw.asymm

theorem tangled_sound : Stats.tangled.Sound where
  keys t := by cases t <;> decide
  uniques t := by cases t <;> decide

/-- A domain that owns much. -/
def busyDomain : Domain := { id := 1, domain := "alpha.com" }

/-- A domain that owns nothing. -/
def idleDomain : Domain := { id := 2, domain := "beta.com" }

/-- A page with a domain that owns nothing before one that owns much, and both of them again. -/
def repeatedPage : List Domain := [idleDomain, busyDomain, idleDomain, busyDomain]

example : Stats.tangled.domains = [busyDomain, idleDomain] := rfl

theorem profiles_one_by_one_tangled :
    Stats.tangled.Sound ∧ (∀ d ∈ repeatedPage, fits d.id = true ∧ Showable {} d) ∧
    (profiles Stats.tangled repeatedPage).statements = 1 ∧
    ∃ shown, (profiles Stats.tangled repeatedPage).result = .ok shown ∧
      ((repeatedPage.mapM fun d => (profiles Stats.tangled [d]).result).map List.flatten) =
        .ok shown ∧
      shown.map (fun q => q.technologies.map (·.name)) =
        [[], ["Plain", "React", "Stripe", "Vue"], [], ["Plain", "React", "Stripe", "Vue"]] ∧
      shown.map (fun q => q.summary.categories.lookup "Framework") =
        [none, some 2, none, some 2] := by
  have hpage : ∀ d ∈ repeatedPage, fits d.id = true ∧ Showable {} d := by decide
  obtain ⟨hstatements, hresult, -, hshown⟩ :=
    profiles_one_by_one tangled_sound rfl rfl repeatedPage
  obtain ⟨shown, hok⟩ := hresult.mpr ⟨by decide, hpage⟩
  obtain ⟨halone, hshows⟩ := hshown shown hok
  have hempty {q : DomainProfile} (hq : ∃ pairs, ShowsOwn Stats.tangled idleDomain pairs q) :
      q.technologies.map (·.name) = [] ∧ q.summary.categories.lookup "Framework" = none := by
    obtain ⟨pairs, hpairs⟩ := hq
    refine ⟨hpairs.names_eq tangled_sound (.refl _) .nil, ?_⟩
    rw [hpairs.counts, (hpairs.perm tangled_sound).countP_eq]
    rfl
  have hfull {q : DomainProfile} (hq : ∃ pairs, ShowsOwn Stats.tangled busyDomain pairs q) :
      q.technologies.map (·.name) = ["Plain", "React", "Stripe", "Vue"] ∧
        q.summary.categories.lookup "Framework" = some 2 := by
    obtain ⟨pairs, hpairs⟩ := hq
    refine ⟨hpairs.names_eq tangled_sound (by decide) (by decide), ?_⟩
    rw [hpairs.counts, (hpairs.perm tangled_sound).countP_eq]
    rfl
  refine ⟨tangled_sound, hpage, hstatements, shown, hok, halone, ?_⟩
  obtain _ | ⟨hfirst, _ | ⟨hsecond, _ | ⟨hthird, _ | ⟨hfourth, _ | _⟩⟩⟩⟩ := hshows
  simp [hempty hfirst, hfull hsecond, hempty hthird, hfull hfourth]

end TechCatalog.Search
