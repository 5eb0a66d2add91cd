import TechCatalog.Proofs.Lists
import TechCatalog.Query.Meaning

/-!
# Keys of the store

A store is sound when its rows keep the keys and unique sets of columns that the schema declares.
From this follow the look-ups by key: at most one technology answers to the number in a link, and at
most one row of statistics to the number of a domain. Columns that must not be empty are never, by
the types of the rows.
-/

namespace TechCatalog.Store

/-- The cell of a domain in a column of any table. -/
def Domain.cell (d : Domain) : Column → Option Value
  | .ofDomain c => d.get c
  | _ => none

/-- The cell of a technology in a column of any table. -/
def Technology.cell (t : Technology) : Column → Option Value
  | .ofTechnology c => t.get c
  | _ => none

/-- The cell of a link in a column of any table. -/
def Link.cell (l : Link) : Column → Option Value
  | .ofLink c => l.get c
  | _ => none

/-- The cell of a row of statistics in a column of any table. -/
def Stats.cell (s : Stats) : Column → Option Value
  | .ofStats c => s.get c
  | _ => none

/-- The rows of a table, each given by its cells. -/
def Database.cells (db : Database) : Table → List (Column → Option Value)
  | .domains => db.domains.map Domain.cell
  | .technologies => db.technologies.map Technology.cell
  | .links => db.links.map Link.cell
  | .stats => db.stats.map Stats.cell

/-- The rows keep the declared keys and unique sets of columns. -/
structure Database.Sound (db : Database) : Prop where
  /-- No two rows of a table have the same number. -/
  keys : ∀ t : Table, ∀ c ∈ t.columns, c.isKey = true → ((db.cells t).map fun row => row c).Nodup
  /-- No two rows of a table agree in all columns of a unique set. -/
  uniques : ∀ t : Table, ∀ u ∈ t.uniques, ((db.cells t).map fun row => u.1.map row).Nodup

/-- A cell that must not be empty is not. -/
theorem Database.cells_needed (db : Database) (t : Table) (c : Column) (hc : c ∈ t.columns)
    (hn : c.nullable = false) : ∀ row ∈ db.cells t, (row c).isSome = true := by
  intro row hrow
  cases t
  all_goals
    obtain ⟨x, -, rfl⟩ := List.mem_map.mp hrow
    obtain ⟨c, -, rfl⟩ := List.mem_map.mp hc
    -- A field that a needed column reads is no `Option`; the other columns may be empty.
    cases c <;> first | rfl | exact absurd hn (by decide)

/-- Every link refers to a domain and to a technology that exist. -/
structure Database.LinksResolve (db : Database) : Prop where
  /-- The domain of a link exists. -/
  domain : ∀ l ∈ db.links, ∃ d ∈ db.domains, d.id = l.domainId
  /-- The technology of a link exists. -/
  technology : ∀ l ∈ db.links, ∃ t ∈ db.technologies, t.id = l.technologyId

/-- A store of two domains, one of which uses two technologies. -/
def Database.small : Database where
  domains := [{ id := 1, domain := "alpha.com", category := some "Retail" },
    { id := 2, domain := "beta.com" }]
  technologies := [{ id := 1, name := "React", category := some "Framework" },
    { id := 2, name := "Stripe", category := some "Payment" }]
  links := [
    { id := 1, domainId := 1, technologyId := 1, domainName := "alpha.com",
      technologyName := "React", spend := some 10 },
    { id := 2, domainId := 1, technologyId := 2, domainName := "alpha.com",
      technologyName := "Stripe" }]
  stats := [{ id := 1, domainId := 1, totalTechnologies := 2 }]

theorem Database.small_sound : Database.small.Sound where
  keys t := by cases t <;> decide
  uniques t := by cases t <;> decide

theorem Database.small_linksResolve : Database.small.LinksResolve where
  domain := by decide
  technology := by decide

namespace Database.Sound

variable {db : Database}

theorem domain_ids (h : db.Sound) : (db.domains.map (·.id)).Nodup := by
  have hk := h.keys .domains (.ofDomain .id) (by decide) rfl
  simp only [Database.cells, List.map_map] at hk
  exact List.Nodup.of_map (fun i : Int => some (Value.int i)) (by rw [List.map_map]; exact hk)

theorem technology_ids (h : db.Sound) : (db.technologies.map (·.id)).Nodup := by
  have hk := h.keys .technologies (.ofTechnology .id) (by decide) rfl
  simp only [Database.cells, List.map_map] at hk
  exact List.Nodup.of_map (fun i : Int => some (Value.int i)) (by rw [List.map_map]; exact hk)

theorem technology_names (h : db.Sound) : (db.technologies.map (·.name)).Nodup := by
  have hu := h.uniques .technologies ([.ofTechnology .name], none) (by decide)
  simp only [Database.cells, List.map_map] at hu
  exact List.Nodup.of_map (fun s : String => [some (Value.text s)]) (by rw [List.map_map]; exact hu)

/-- No two links are of one domain to one technology. -/
theorem link_ends (h : db.Sound) : (db.links.map fun l => (l.domainId, l.technologyId)).Nodup := by
  have hu := h.uniques .links ([.ofLink .domainId, .ofLink .technologyId],
    some "uq_domain_technology") (by decide)
  simp only [Database.cells, List.map_map] at hu
  refine List.Nodup.of_map (fun i : Int × Int => [some (Value.int i.1), some (Value.int i.2)]) ?_
  rw [List.map_map]
  exact hu

theorem stats_domains (h : db.Sound) : (db.stats.map (·.domainId)).Nodup := by
  have hu := h.uniques .stats ([.ofStats .domainId], none) (by decide)
  simp only [Database.cells, List.map_map] at hu
  exact List.Nodup.of_map (fun i : Int => [some (Value.int i)]) (by rw [List.map_map]; exact hu)

theorem domains_nodup (h : db.Sound) : db.domains.Nodup :=
  h.domain_ids.of_map

/-- The number of a domain tells it from all others. -/
theorem domain_eq (h : db.Sound) {d e : Domain} (hd : d ∈ db.domains) (he : e ∈ db.domains)
    (hid : d.id = e.id) : d = e :=
  List.inj_on_of_nodup_map h.domain_ids hd he hid

end Database.Sound

end TechCatalog.Store

namespace TechCatalog.Query

open Store

/-- The statistics of the domain of a number. -/
def statsOf (db : Database) (domainId : Int) : Option Stats :=
  db.stats.find? fun s => s.domainId == domainId

theorem statsOf_eq_some_iff {db : Database} (h : db.Sound) (domainId : Int) (s : Stats) :
    statsOf db domainId = some s ↔ s ∈ db.stats ∧ s.domainId = domainId :=
  find?_key_eq_some_iff h.stats_domains domainId s

theorem mem_linksOf {db : Database} {domainId : Int} {l : Link} :
    l ∈ linksOf db domainId ↔ l ∈ db.links ∧ l.domainId = domainId := by
  rw [linksOf, List.mem_filter, beq_iff_eq]

/-- A link that resolves has a technology. -/
theorem technologyOf_isSome {db : Database} (h : db.LinksResolve) {l : Link} (hl : l ∈ db.links) :
    (technologyOf db l).isSome = true := by
  obtain ⟨t, ht, hid⟩ := h.technology l hl
  rw [technologyOf, List.find?_isSome]
  exact ⟨t, ht, by simp [hid]⟩

end TechCatalog.Query
