import TechCatalog.Proofs.Keys
import TechCatalog.Proofs.Outcomes
import TechCatalog.Search.Enrichment

/-!
# What is shown of a domain

A profile describes a domain of the store when it shows the attributes of the domain, the
technologies of its links, and the summary of these technologies. Every profile of a page describes
the domain at its place.
-/

namespace TechCatalog.Search

open Store Query Profile Request

/-- A technology as a link shows it: what it is comes from the technology, and how it is used from
the link. -/
def shownLink (l : Link) (t : Technology) : OwnedTechnology where
  name := t.name
  category := t.category
  isPremium := some t.isPremium
  description := t.description
  spend := l.spend
  subdomain := l.subdomain
  firstIdentified := l.firstIdentified
  lastIdentified := l.lastIdentified
  firstDetected := l.firstDetected
  lastDetected := l.lastDetected

theorem technology_ownedRow (l : Link) (t : Technology) :
    (ownedRow l t).technology = shownLink l t := rfl

/-- The technologies that are shown of a domain, in the order of its links. -/
def ownedBy (db : Database) (domainId : Int) : List OwnedTechnology :=
  (linksOf db domainId).filterMap fun l => (technologyOf db l).map (shownLink l)

/-- The technologies of one domain among those of several are its own. -/
theorem technologiesIn_perm (db : Database) {ids : List Int} {id : Int} (hid : id ∈ ids) :
    (technologiesIn (ownedRows db ids) id).Perm (ownedBy db id) := by
  have hsorted := ((List.mergeSort_perm ((db.links.filter fun l =>
    ids.contains l.domainId).filterMap fun l => (technologyOf db l).map (ownedRow l))
      OwnedRow.before).filter fun r => r.domainId == id).map (·.technology)
  refine hsorted.trans (List.Perm.of_eq ?_)
  rw [List.filter_filterMap, List.map_filterMap, List.filterMap_filter, ownedBy, linksOf,
    List.filterMap_filter]
  refine List.filterMap_congr fun l _ => ?_
  cases ht : technologyOf db l with
  | none => simp
  | some t =>
    have hown : (ownedRow l t).domainId = l.domainId := rfl
    by_cases hl : l.domainId = id
    · simp [hl, hid, hown, technology_ownedRow]
    · simp [hl, hown]

/-- The profile describes the domain: it has the attributes of the domain, reads its collections
from the texts that the domain keeps, and lists the technologies of its links, to which the summary
belongs. -/
structure Describes (db : Database) (d : Domain) (q : DomainProfile) : Prop where
  id : q.id = d.id
  domain : q.domain = d.domain
  companyName : q.companyName = d.companyName
  category : q.category = d.category
  country : q.country = d.country
  state : q.state = d.state
  city : q.city = d.city
  zipCode : q.zipCode = d.zipCode
  socialLinks : readTexts db.platform.reader (.ofText? d.socialLinks) = .accept q.socialLinks
  emails : readTexts db.platform.reader (.ofText? d.emails) = .accept q.emails
  phones : readTexts db.platform.reader (.ofText? d.phones) = .accept q.phones
  people : readPeople db.platform.reader (.ofText? d.people) = .accept q.people
  createdAt : q.createdAt = some d.createdAt
  updatedAt : q.updatedAt = some d.updatedAt
  technologies : q.technologies.Perm (ownedBy db d.id)
  summary : q.summary = summarize q.technologies

theorem describes_of_profile {db : Database} {d : Domain} {owned : List OwnedTechnology}
    {q : DomainProfile} (h : profile db.platform.reader d owned = .ok q)
    (howned : owned.Perm (ownedBy db d.id)) : Describes db d q := by
  rw [profile] at h
  split at h
  · cases h
  · split at h
    · rename_i hq
      simp only [profileOf, Checked.both_eq_accept, Checked.within_eq_accept] at hq
      cases h
      obtain ⟨_, people, ⟨_, phones, ⟨_, emails, ⟨_, socialLinks, hmk, hsocialLinks, rfl⟩, hemails,
        rfl⟩, hphones, rfl⟩, hpeople, rfl⟩ := hq
      cases hmk
      exact {
        id := rfl
        domain := rfl
        companyName := rfl
        category := rfl
        country := rfl
        state := rfl
        city := rfl
        zipCode := rfl
        socialLinks := hsocialLinks
        emails := hemails
        phones := hphones
        people := hpeople
        createdAt := rfl
        updatedAt := rfl
        technologies := howned
        summary := rfl }
    · cases h

/-- Technologies are loaded for as many domains as a statement may bind, where nothing that is asked
for is missing and the numbers of the domains fit. -/
theorem loadTechnologies_eq_ok {db : Database} {ids : List Int} {rows : List OwnedRow} :
    loadTechnologies db ids = .ok rows ↔
      ids.length ≤ db.platform.variableLimit ∧
      db.lacks? [.links, .technologies] (qualifiedColumns ownedColumns) = none ∧
      (∀ id ∈ ids, fits id = true) ∧ rows = ownedRows db ids := by
  by_cases hsize : db.platform.variableLimit < ids.length
  · rw [loadTechnologies, if_pos hsize]
    exact iff_of_false nofun fun h => absurd h.1 (Nat.not_le.mpr hsize)
  rw [loadTechnologies, if_neg hsize]
  cases db.lacks? [.links, .technologies] (qualifiedColumns ownedColumns) with
  | some e => exact iff_of_false nofun fun h => nomatch h.2.1
  | none =>
    dsimp only
    by_cases hids : ids.all fits = true
    · rw [if_pos hids, Except.ok.injEq, eq_comm]
      rw [List.all_eq_true] at hids
      exact ⟨fun h => ⟨Nat.not_lt.mp hsize, rfl, hids, h⟩, fun h => h.2.2.2⟩
    · rw [if_neg hids]
      exact iff_of_false nofun fun h => hids (List.all_eq_true.mpr h.2.2.1)

section

variable {db : Database} {page : List Domain} (hpage : page ≠ [])
include hpage

/-- Each profile takes its technologies from the rows that are loaded for the page. -/
theorem profiles_of_loaded {rows : List OwnedRow}
    (hload : loadTechnologies db (page.map (·.id)) = .ok rows) : profiles db page =
      { result := page.mapM fun d => profile db.platform.reader d (technologiesIn rows d.id)
        records := [loadedRecord page.length]
        statements := 1 } := by
  rw [profiles, if_neg (mt List.isEmpty_iff.mp hpage), hload]
  rfl

theorem profiles_of_not_loaded {e : RunError}
    (hload : loadTechnologies db (page.map (·.id)) = .error e) :
    profiles db page = { result := .error (.run e), statements := 1 } := by
  rw [profiles, if_neg (mt List.isEmpty_iff.mp hpage), hload]
  rfl

/-- A page with domains can be shown when the technologies are loaded and every profile is made. -/
theorem profiles_eq_ok {shown : List DomainProfile} : (profiles db page).result = .ok shown ↔
    ∃ rows, loadTechnologies db (page.map (·.id)) = .ok rows ∧
      List.Forall₂ (fun d q => profile db.platform.reader d (technologiesIn rows d.id) = .ok q)
        page shown := by
  cases hload : loadTechnologies db (page.map (·.id)) with
  | error e =>
    rw [profiles_of_not_loaded hpage hload]
    exact iff_of_false nofun fun ⟨_, h, _⟩ => nomatch h
  | ok rows =>
    rw [profiles_of_loaded hpage hload]
    simp [mapM_eq_ok]

end

/-- The profiles of a page describe its domains, in the same order. -/
theorem profiles_describe {db : Database} {page : List Domain} {shown : List DomainProfile}
    (h : (profiles db page).result = .ok shown) : List.Forall₂ (Describes db) page shown := by
  by_cases hpage : page = []
  · subst hpage
    cases h
    exact .nil
  · obtain ⟨rows, hload, hshown⟩ := (profiles_eq_ok hpage).mp h
    obtain ⟨-, -, -, rfl⟩ := loadTechnologies_eq_ok.mp hload
    have hnumbers : ∀ d ∈ page, d.id ∈ page.map (·.id) := fun d hd => List.mem_map_of_mem hd
    refine ((List.forall₂_and_left page shown).mpr ⟨hnumbers, hshown⟩).imp fun d q hd => ?_
    exact describes_of_profile hd.2 (technologiesIn_perm db hd.1)

/-- What profiles tell of the domains that they describe is what the domains tell. -/
theorem map_eq_of_describes {α : Type} {db : Database} {ds : List Domain} {qs : List DomainProfile}
    (h : List.Forall₂ (Describes db) ds qs) {told : DomainProfile → α} {kept : Domain → α}
    (hsame : ∀ d q, Describes db d q → told q = kept d) : qs.map told = ds.map kept := by
  rw [← List.forall₂_eq_eq_eq, List.forall₂_map_left_iff, List.forall₂_map_right_iff]
  exact (h.imp hsame).flip

end TechCatalog.Search
