import TechCatalog.Proofs.Fitting
import TechCatalog.Proofs.SearchedLists
import TechCatalog.Service.App

/-!
# Requests for a part of a list

Two endpoints offer lists of values of which a part can be asked for. Whatever number of values is
asked for is kept in bounds before it reaches the store. The number of values to leave out is not:
the store has no room for a number above the greatest offset of a page, and the service breaks down
over one. Every other request that is accepted is answered with the part it asks for, with an empty
list where more is left out than there is.
-/

namespace TechCatalog.Json

theorem mapFloatsList_texts (f : Float → Json) (xs : List String) :
    mapFloatsList f (xs.map .str) = xs.map .str := by
  induction xs with
  | nil => rfl
  | cons x xs ih => simp only [List.map_cons, mapFloatsList, mapFloats, ih]

/-- There are no numbers in a list of texts. -/
theorem mapFloats_ofTexts (f : Float → Json) (xs : List String) :
    (ofTexts xs).mapFloats f = ofTexts xs := by
  rw [ofTexts, mapFloats, mapFloatsList_texts]

end TechCatalog.Json

namespace TechCatalog.Options

open Store

/-- The store has room for the numbers of what is wanted. -/
def Wanted.Fits (w : Wanted) : Prop :=
  (∀ limit ∈ w.limit, fits limit = true) ∧ fits w.offset = true

end TechCatalog.Options

namespace TechCatalog.Service

open Options Request Store

/-- The source of a list of which a part can be asked for. -/
def Endpoint.partSource? : Endpoint → Option Source
  | .companyNames => some (.domains .companyName)
  | .technologies => some .technologyNames
  | _ => none

/-- A call asks for a part of the list of a source, and its query is accepted. -/
structure AsksForPart (a : App) (s : Settings) (c : Call) (source : Source) (w : Wanted) :
    Prop where
  method : c.method = "GET"
  path : (a.endpoint? c.path).bind Endpoint.partSource? = some source
  query : c.wanted s = .accept w

/-- A response that sends a list of texts. -/
def Response.Sends (r : Response) (values : List String) : Prop :=
  r.status = 200 ∧ r.content = .document (.ofTexts values)

/-- The response of a service that broke down. -/
def Response.BreaksDown (r : Response) : Prop :=
  r.status = 500 ∧ r.content = .text "Internal Server Error"

section

variable {a : App} {s : Settings} {c : Call} {source : Source} {w : Wanted}

theorem fits_iff {i : Int} (h : 0 ≤ i) : fits i = true ↔ i ≤ Search.maxOffset := by
  refine ⟨fun hfits => ?_, Search.fits_of_bounds h⟩
  have htop : Search.maxOffset = (Decimal.twoPow 63 : Int) - 1 := rfl
  rw [fits, Bool.and_eq_true, decide_eq_true_iff, decide_eq_true_iff] at hfits
  omega

/-- The number of values that are asked for is kept in bounds, and none that is negative is left
out. -/
theorem wanted_bounds (h : c.wanted s = .accept w) :
    ∃ limit, w.limit = some limit ∧ 1 ≤ limit ∧ limit ≤ max 1 s.maxPageSize ∧ 0 ≤ w.offset := by
  rw [Call.wanted, Checked.within_eq_accept, Checked.both_eq_accept] at h
  obtain ⟨make, offset, hmake, hoffset, rfl⟩ := h
  obtain ⟨limit, -, rfl⟩ := Checked.map_eq_accept.mp hmake
  have hlow : 1 ≤ optionsLimit s limit := Int.le_max_left _ _
  have hhigh : optionsLimit s limit ≤ max 1 s.maxPageSize :=
    Int.max_le.mpr ⟨Int.le_max_left _ _, Int.le_trans (Int.min_le_right _ _) (Int.le_max_right _ _)⟩
  refine ⟨optionsLimit s limit, rfl, hlow, hhigh, ?_⟩
  show 0 ≤ offset
  rw [Key.optional] at hoffset
  split at hoffset
  · rw [Checked.within_eq_accept, atLeast, Checked.andThen_eq_accept] at hoffset
    obtain ⟨read, -, hread⟩ := hoffset
    split at hread
    · rename_i hzero
      cases hread
      exact hzero
    · cases hread
  · cases hoffset
    exact Int.le_refl 0

theorem sends_ofTexts (values : List String) :
    (Response.ofDocument 200 (.ofTexts values)).Sends values :=
  ⟨rfl, congrArg Content.document (Json.mapFloats_ofTexts sentFloat values)⟩

theorem share_sends {p : Policy} {r : Response} {values : List String} (h : r.Sends values) :
    (p.share c r).Sends values := by
  rw [Policy.share]
  split <;> exact h

theorem forMethod_get (r : Response) : r.forMethod "GET" = r :=
  if_neg (by decide)

/-- A request for a part of a list is answered with what the store gives for it. -/
theorem answer_part (h : AsksForPart a s c source w) (db : Database) (requestId : Option String) :
    a.answer db s requestId c = .statement (.ok (match source.list db w with
      | .ok values => a.policy.share c (.ofDocument 200 (.ofTexts values))
      | .error _ => .breakdown)) := by
  obtain ⟨e, he, hsource⟩ := Option.bind_eq_some_iff.mp h.path
  have hmethod : e.method = "GET" := by
    cases e <;> first | rfl | cases hsource
  have hserve : e.serve db s requestId c = serveOptions db source w := by
    have hpart : e.serve db s requestId c = servePartOf db s source c := by
      cases e <;> cases hsource <;> rfl
    rw [hpart, servePartOf, h.query]
  have hquestion : c.question? = none := by
    rw [Call.question?, h.method]
    rfl
  rw [App.answer, hquestion, App.serve, he]
  simp only [h.method, hmethod, if_true, hserve, serveOptions, forMethod_get]
  cases source.list db w with
  | ok values => rfl
  | error e => rfl

/-- A request for a part of a list sends one statement. Where the store has room for its numbers it
is answered with what the search keeps of the ranked list, cut to the part that is asked for, and
with nothing where more is left out than there is. Otherwise the service breaks down, and unless the
settings allow pages beyond all bounds, the number of values to leave out is what the store has no
room for. -/
theorem part_answered {db : Database} (htables : db.droppedTables = [])
    (hcolumns : db.droppedColumns = []) (h : AsksForPart a s c source w)
    (hpattern : WithinLimit w.search) (requestId : Option String) :
    ∃ limit values r, w.limit = some limit ∧ 1 ≤ limit ∧ limit ≤ max 1 s.maxPageSize ∧
      0 ≤ w.offset ∧ Ranked db source values ∧
      a.answer db s requestId c = .statement (.ok r) ∧
      (w.Fits →
        r.Sends (((values.filter fun v => w.accepts v).drop w.offset.toNat).take limit.toNat)) ∧
      (w.Fits → values.length ≤ w.offset → r.Sends []) ∧
      (¬ w.Fits → r.BreaksDown) ∧
      (s.maxPageSize ≤ Search.maxOffset → (w.Fits ↔ w.offset ≤ Search.maxOffset)) := by
  obtain ⟨limit, hlimit, hlow, hhigh, hoffset⟩ := wanted_bounds h.query
  have hanswer := answer_part h db requestId
  have hlist := Search.list_eq htables hcolumns source (w := w) hpattern
  rw [rank_filter] at hlist
  have hfits : (w.limit.any fun limit => !(fits limit && fits w.offset)) = false ↔ w.Fits := by
    rw [hlimit, Wanted.Fits, hlimit]
    simp
  refine ⟨limit, rank (source.offers db), _, hlimit, hlow, hhigh, hoffset, ranked_rank db source,
    hanswer, ?_⟩
  have hsends : w.Fits → source.list db w = .ok ((((rank (source.offers db)).filter fun v =>
      w.accepts v).drop w.offset.toNat).take limit.toNat) := by
    intro hw
    rw [hlist, hfits.mpr hw, part_eq hlimit hlow]
    rfl
  refine ⟨fun hw => ?_, fun hw hpast => ?_, fun hw => ?_, fun hs => ?_⟩
  · rw [hsends hw]
    exact share_sends (sends_ofTexts _)
  · have hlength := List.length_filter_le (fun v => w.accepts v) (rank (source.offers db))
    have hnone : ((rank (source.offers db)).filter fun v => w.accepts v).drop w.offset.toNat = [] :=
      List.drop_eq_nil_of_le (by omega)
    rw [hsends hw, hnone, List.take_nil]
    exact share_sends (sends_ofTexts [])
  · rw [← hfits, Bool.not_eq_false] at hw
    rw [hlist, if_pos hw]
    exact ⟨rfl, rfl⟩
  · have hroom : fits limit = true := by
      refine Search.fits_of_bounds (by omega) (Int.le_trans hhigh ?_)
      exact Int.max_le.mpr ⟨by decide, hs⟩
    rw [Wanted.Fits, hlimit, fits_iff hoffset]
    simp [hroom]

end

/-- The service as it starts with its own settings. -/
def usualApp : App := ⟨"/api", ⟨[everyOrigin]⟩⟩

example : App.start {} = .ok usualApp := by decide

/-- A request for the names of companies. -/
def namesCall (query : List (String × String)) : Call where
  method := "GET"
  path := "/api/options/company-names"
  query := query

theorem asksForPart_namesCall {query : List (String × String)} {w : Wanted}
    (h : (namesCall query).wanted {} = .accept w) :
    AsksForPart usualApp {} (namesCall query) (.domains .companyName) w where
  method := rfl
  path := by
    show (usualApp.endpoint? "/api/options/company-names").bind Endpoint.partSource? = _
    decide
  query := h

/-- A query for the second of the shops. -/
def secondShop : List (String × String) :=
  [("search", " SHOP "), ("limit", "1"), ("offset", "1")]

/-- A query that leaves out as many values as the store has room for. -/
def pastTheEnd : List (String × String) := [("limit", "-7"), ("offset", "9223372036854775807")]

theorem part_answered_shops :
    AsksForPart usualApp {} (namesCall secondShop) (.domains .companyName)
      ⟨some " SHOP ", some 1, 1⟩ ∧
    AsksForPart usualApp {} (namesCall pastTheEnd) (.domains .companyName)
      ⟨some "", some 1, 9223372036854775807⟩ ∧
    WithinLimit (some " SHOP ") ∧ WithinLimit (some "") ∧
    (∃ r, usualApp.answer shops {} none (namesCall secondShop) = .statement (.ok r) ∧
      r.Sends ["50% off shop"]) ∧
    ∃ r, usualApp.answer shops {} none (namesCall pastTheEnd) = .statement (.ok r) ∧
      r.Sends [] := by
  have htables : shops.droppedTables = [] := rfl
  have hsecond : AsksForPart usualApp {} (namesCall secondShop) (.domains .companyName)
      ⟨some " SHOP ", some 1, 1⟩ := asksForPart_namesCall rfl
  have hpast : AsksForPart usualApp {} (namesCall pastTheEnd) (.domains .companyName)
      ⟨some "", some 1, 9223372036854775807⟩ := asksForPart_namesCall rfl
  refine ⟨hsecond, hpast, by decide, by decide, ?_, ?_⟩
  · obtain ⟨limit, values, r, hlimit, -, -, -, hranked, hanswer, hsends, -⟩ :=
      part_answered htables rfl hsecond (by decide) none
    cases hlimit
    cases hranked.eq ranked_shops
    have hkept : ((shopNames.filter fun v =>
        Wanted.accepts ⟨some " SHOP ", some 1, 1⟩ v).drop 1).take 1 = ["50% off shop"] := by
      decide +kernel
    refine ⟨r, hanswer, ?_⟩
    rw [← hkept]
    exact hsends ⟨by decide, by decide⟩
  · obtain ⟨limit, values, r, -, -, -, -, hranked, hanswer, -, hempty, -⟩ :=
      part_answered htables rfl hpast (by decide) none
    cases hranked.eq ranked_shops
    exact ⟨r, hanswer, hempty ⟨by decide, by decide⟩ (by decide)⟩

/-- What is wanted when more is left out than the store has room for. -/
def hugeOffset : Wanted := ⟨some "", some 50, 9223372036854775808⟩

/-- A number of values to leave out that the store has no room for passes every check, and the
service breaks down over it. -/
theorem huge_offset_breaks_down :
    AsksForPart usualApp {} (namesCall [("offset", "9223372036854775808")])
      (.domains .companyName) hugeOffset ∧
    WithinLimit hugeOffset.search ∧ 0 ≤ hugeOffset.offset ∧
    ∃ r, usualApp.answer shops {} none (namesCall [("offset", "9223372036854775808")]) =
      .statement (.ok r) ∧ r.BreaksDown ∧ r.status ≠ 200 := by
  have hasks : AsksForPart usualApp {} (namesCall [("offset", "9223372036854775808")])
      (.domains .companyName) hugeOffset := asksForPart_namesCall rfl
  have hlist : Source.list shops (.domains .companyName) hugeOffset = .error .overflow := by
    rw [Search.list_eq rfl rfl _ (by decide)]
    exact if_pos (by decide)
  refine ⟨hasks, by decide, by decide, _, answer_part hasks shops none, ?_⟩
  rw [hlist]
  exact ⟨⟨rfl, rfl⟩, by decide⟩

end TechCatalog.Service
