import FlickrGroupAddr.AlbumRepairCandidates

/-!
# What the candidate pages offer

A page of candidates is a slice of one list: the sets that the first photo is in when the
page is read, without those it was in before the create, in their order.  Pages that read
the same sets put together are that list; pages that read other sets are not compared.
-/

open Paging

namespace FlickrGroupAddr

set_option autoImplicit false

open KeyedTable Transition

/-! ## The difference -/

theorem mem_contextDifference {ids before : List Token} {id : Token} :
    id ∈ contextDifference ids before ↔ id ∈ ids ∧ id ∉ before := by
  simp [contextDifference]

/-- The ids of a context list are distinct. -/
theorem albumContextIds_nodup {value : JsonValue} {ids : List Token}
    (h : albumContextIds value = some ids) : ids.Nodup := by
  unfold albumContextIds at h
  obtain ⟨_, h⟩ := Option.ite_none_right_eq_some.mp h
  obtain ⟨sets, hsets, hpool⟩ := Option.bind_eq_some_iff.mp h
  obtain ⟨_, _, rfl⟩ := Option.map_eq_some_iff.mp hpool
  unfold contextSetIds at hsets
  split at hsets
  · obtain ⟨_, hsets⟩ := Option.ite_none_right_eq_some.mp hsets
    simpa using (Option.filter_eq_some_iff.mp hsets).2
  · cases hsets

theorem Token.text_injective : Function.Injective Token.text := by
  intro left right h
  cases left
  cases right
  cases h
  rfl

/-- The difference of distinct ids is in order, each id once. -/
theorem contextDifference_ascends {ids : List Token} (hnodup : ids.Nodup) (before : List Token) :
    (contextDifference ids before).Pairwise fun left right => left.text < right.text := by
  have htotal : Std.Total fun left right : Token => left.text ≤ right.text :=
    ⟨fun left right => le_total left.text right.text⟩
  have htrans : IsTrans Token fun left right => left.text ≤ right.text :=
    ⟨fun _ _ _ => le_trans⟩
  have hsorted := List.pairwise_insertionSort (fun left right : Token => left.text ≤ right.text)
    (ids.filter fun id => decide (id ∉ before))
  have hdistinct : (contextDifference ids before).Nodup :=
    (List.perm_insertionSort _ _).nodup_iff.mpr (hnodup.filter _)
  refine (hsorted.and hdistinct).imp ?_
  rintro left right ⟨hle, hne⟩
  exact lt_of_le_of_ne hle fun htext => hne (Token.text_injective htext)

/-! ## One page -/

theorem orFault_eq_ok {α : Type} {value : Option α} {fault : RepairFault} {found : α} :
    orFault value fault = .ok found ↔ value = some found := by
  cases value <;> simp [orFault]

theorem demand_eq_ok {p : Prop} [Decidable p] {fault : RepairFault} :
    demand p fault = .ok () ↔ p := by
  simp [demand]

theorem mapError_eq_ok {ε δ α : Type} {x : Except ε α} {f : ε → δ} {a : α} :
    x.mapError f = .ok a ↔ x = .ok a := by
  cases x <;> simp [Except.mapError]

/-- A candidate is the photoset that was looked up, of the owner. -/
theorem repairCandidate_some {parse : String → Option WebUrl} {value : JsonValue}
    {photosetId : Token} {ownerNsid : String} {row : AlbumRepairCandidate}
    (h : repairCandidate parse value photosetId ownerNsid = some row) :
    row.flickrPhotosetId = photosetId ∧ row.ownerNsid = ownerNsid := by
  unfold repairCandidate at h
  obtain ⟨set, _, h⟩ := Option.bind_eq_some_iff.mp h
  split at h
  · obtain ⟨_, h⟩ := Option.ite_none_right_eq_some.mp h
    obtain ⟨url, _, rfl⟩ := Option.map_eq_some_iff.mp h
    exact ⟨rfl, rfl⟩
  · cases h

namespace RepairReads

variable {reads : RepairReads} {identity : AlbumRepairReadIdentity}

/-- The rows of a page are the photosets that were looked up for it. -/
theorem candidates_ok {n : Nat} {ids : List Token} {rows : List AlbumRepairCandidate}
    (h : reads.candidates identity n ids = .ok rows) :
    rows.map AlbumRepairCandidate.flickrPhotosetId = ids := by
  induction ids generalizing n rows with
  | nil =>
      cases h
      rfl
  | cons photosetId rest ih =>
      rw [candidates] at h
      obtain ⟨_, _, h⟩ := Fallible.bind_eq_ok.mp h
      obtain ⟨value, _, h⟩ := Fallible.bind_eq_ok.mp h
      obtain ⟨row, hrow, h⟩ := Fallible.bind_eq_ok.mp h
      obtain ⟨later, hlater, h⟩ := Fallible.bind_eq_ok.mp h
      cases h
      rw [List.map_cons, ih hlater, (repairCandidate_some (orFault_eq_ok.mp hrow)).1]

/-- A page is a slice of the difference, with the counts of the whole. -/
theorem pageOf_ok {page pageSize : Nat} {ids : List Token} {result : AlbumRepairCandidatePage}
    (h : reads.pageOf identity page pageSize ids = .ok result) :
    result.candidates.map AlbumRepairCandidate.flickrPhotosetId =
        slice (contextDifference ids identity.preContextIds) pageSize page ∧
      result.total = (contextDifference ids identity.preContextIds).length ∧
      result.pages = pageCount result.total pageSize := by
  rw [pageOf] at h
  obtain ⟨_, _, h⟩ := Fallible.bind_eq_ok.mp h
  obtain ⟨rows, hrows, h⟩ := Fallible.bind_eq_ok.mp h
  obtain ⟨_, _, h⟩ := Fallible.bind_eq_ok.mp h
  obtain ⟨_, _, h⟩ := Fallible.bind_eq_ok.mp h
  cases h
  exact ⟨candidates_ok hrows, rfl, rfl⟩

/-- A page that was read is one of the sets that this operation itself read. -/
theorem discover_ok {page pageSize : Nat} {result : AlbumRepairCandidatePage}
    (h : reads.discover identity page pageSize = .ok result) :
    discoverable page pageSize ∧ ∃ value ids, reads.contexts identity.firstPhotoId = .ok value ∧
      albumContextIds value = some ids ∧ reads.pageOf identity page pageSize ids = .ok result := by
  rw [discover] at h
  obtain ⟨_, _, h⟩ := Fallible.bind_eq_ok.mp h
  obtain ⟨_, hbounds, h⟩ := Fallible.bind_eq_ok.mp h
  obtain ⟨_, _, h⟩ := Fallible.bind_eq_ok.mp h
  obtain ⟨_, _, h⟩ := Fallible.bind_eq_ok.mp h
  obtain ⟨_, _, h⟩ := Fallible.bind_eq_ok.mp h
  obtain ⟨_, _, h⟩ := Fallible.bind_eq_ok.mp h
  obtain ⟨value, hvalue, h⟩ := Fallible.bind_eq_ok.mp h
  obtain ⟨ids, hids, h⟩ := Fallible.bind_eq_ok.mp h
  obtain ⟨found, hfound, h⟩ := Fallible.bind_eq_ok.mp h
  obtain ⟨_, _, h⟩ := Fallible.bind_eq_ok.mp h
  obtain ⟨_, _, h⟩ := Fallible.bind_eq_ok.mp h
  cases h
  exact ⟨demand_eq_ok.mp hbounds, value, ids, hvalue, orFault_eq_ok.mp hids, hfound⟩

end RepairReads

/-! ## One request -/

/-- The context that stood when it was read still stands. -/
structure RepairContext.Stands (c later : RepairContext) : Prop where
  revision : later.bindingRevision = c.bindingRevision
  standing : later.standing = c.standing
  before : later.preContextIds = c.preContextIds
  timely : later.observedAtUs < c.deadlineAtUs

theorem assertAlbumRepairContext_ok {m : Moment} {db : AlbumDb} {auth : RepairAuth}
    {c : RepairContext} (h : assertAlbumRepairContext m db auth c = .ok ()) :
    ∃ later, readAlbumRepairContext m db auth c.bindingId = .ok later ∧ c.Stands later := by
  obtain ⟨later, hlater, h⟩ := Fallible.bind_eq_ok.mp h
  split at h
  · cases h
  next hrevision =>
  split at h
  · cases h
  next hstanding =>
  split at h
  · cases h
  next htimely =>
  split at h
  · cases h
  next hbefore =>
  exact ⟨later, hlater, not_not.mp hrevision, not_not.mp hstanding, not_not.mp hbefore,
    lt_of_not_ge htimely⟩

/-- What a request read: the context of the repair, and the sets the first photo is in. -/
structure RepairVisit.Reads (visit : RepairVisit) (auth : RepairAuth) (bindingId : Token)
    (context : RepairContext) (ids : List Token) : Prop where
  opened : readAlbumRepairContext visit.opened visit.openedDb auth bindingId = .ok context
  told : ∃ value, visit.reads.contexts context.firstPhotoId = .ok value ∧
    albumContextIds value = some ids

/-- What is offered on a page. -/
def AlbumRepairCandidatePage.offers (result : AlbumRepairCandidatePage) : List Token :=
  result.candidates.map AlbumRepairCandidate.flickrPhotosetId

/-- A page that was served: the slice of its number, of what the request itself read, under a
context that stood to the end. -/
structure CandidatesServed (visit : RepairVisit) (auth : RepairAuth) (bindingId : Token)
    (page pageSize : Nat) (result : AlbumRepairCandidatePage) (context : RepairContext)
    (ids : List Token) : Prop where
  read : visit.Reads auth bindingId context ids
  bounds : discoverable page pageSize
  offers : result.offers = slice (contextDifference ids context.preContextIds) pageSize page
  total : result.total = (contextDifference ids context.preContextIds).length
  pages : result.pages = pageCount result.total pageSize
  inRange : page ≤ max 1 result.pages
  stands : ∃ later, readAlbumRepairContext visit.closed visit.closedDb auth context.bindingId =
    .ok later ∧ context.Stands later

theorem createRepairCandidates_ok {visit : RepairVisit} {auth : RepairAuth} {bindingId : Token}
    {search : String} {result : AlbumRepairCandidatePage}
    (h : createRepairCandidates visit auth bindingId search = .ok result) :
    ∃ page pageSize context ids, parseAlbumCreateRepairPage search 20 = some (page, pageSize) ∧
      CandidatesServed visit auth bindingId page pageSize result context ids := by
  rw [createRepairCandidates] at h
  obtain ⟨⟨page, pageSize⟩, hparsed, h⟩ := Fallible.bind_eq_ok.mp h
  obtain ⟨context, hcontext, h⟩ := Fallible.bind_eq_ok.mp h
  obtain ⟨found, hfound, h⟩ := Fallible.bind_eq_ok.mp h
  obtain ⟨_, hasserted, h⟩ := Fallible.bind_eq_ok.mp h
  obtain ⟨_, hfits, h⟩ := Fallible.bind_eq_ok.mp h
  obtain ⟨_, hbody, h⟩ := Fallible.bind_eq_ok.mp h
  cases h
  obtain ⟨hbounds, value, ids, hvalue, hids, hpage⟩ := RepairReads.discover_ok hfound
  obtain ⟨hoffers, htotal, hpages⟩ := RepairReads.pageOf_ok hpage
  have hrange := (demand_eq_ok.mp hbody).2.2.1.2.2.1
  rw [(demand_eq_ok.mp hfits).1.1] at hrange
  exact ⟨page, pageSize, context, ids, orFault_eq_ok.mp hparsed,
    ⟨mapError_eq_ok.mp hcontext, value, hvalue, hids⟩, hbounds, hoffers, htotal, hpages, hrange,
    assertAlbumRepairContext_ok (mapError_eq_ok.mp hasserted)⟩

/-- What a request read is determined by what it met. -/
theorem RepairVisit.Reads.unique {visit : RepairVisit} {auth : RepairAuth} {bindingId : Token}
    {context context' : RepairContext} {ids ids' : List Token}
    (h : visit.Reads auth bindingId context ids) (h' : visit.Reads auth bindingId context' ids') :
    context = context' ∧ ids = ids' := by
  obtain ⟨hcontext, value, hvalue, hids⟩ := h
  obtain ⟨hcontext', value', hvalue', hids'⟩ := h'
  cases hcontext.symm.trans hcontext'
  cases hvalue.symm.trans hvalue'
  exact ⟨rfl, Option.some.inj (hids.symm.trans hids')⟩

/-- Nothing is offered that the first photo is not in, or was in before the create. -/
theorem CandidatesServed.offered {visit : RepairVisit} {auth : RepairAuth} {bindingId : Token}
    {page pageSize : Nat} {result : AlbumRepairCandidatePage} {context : RepairContext}
    {ids : List Token} (h : CandidatesServed visit auth bindingId page pageSize result context ids)
    {photosetId : Token} (hmem : photosetId ∈ result.offers) :
    photosetId ∈ ids ∧ photosetId ∉ context.preContextIds := by
  rw [h.offers] at hmem
  exact mem_contextDifference.mp ((slice_sublist _ _ _).subset hmem)

/-! ## All pages -/

/-- Pages one to `n` of one size were served, and all read the same sets and the same sets
before the create. -/
structure CandidatesFollowed (auth : RepairAuth) (bindingId : Token) (pageSize n : Nat)
    (ids before : List Token) (visits : Nat → RepairVisit) (searches : Nat → String)
    (results : Nat → AlbumRepairCandidatePage) : Prop where
  asked : ∀ i < n, parseAlbumCreateRepairPage (searches i) 20 = some (i + 1, pageSize)
  served : ∀ i < n, createRepairCandidates (visits i) auth bindingId (searches i) = .ok (results i)
  unchanged : ∀ i < n, ∃ context, (visits i).Reads auth bindingId context ids ∧
    context.preContextIds = before

namespace CandidatesFollowed

variable {auth : RepairAuth} {bindingId : Token} {pageSize n : Nat} {ids before : List Token}
  {visits : Nat → RepairVisit} {searches : Nat → String}
  {results : Nat → AlbumRepairCandidatePage}

theorem page (h : CandidatesFollowed auth bindingId pageSize n ids before visits searches results)
    {i : Nat} (hi : i < n) :
    discoverable (i + 1) pageSize ∧ ids.Nodup ∧
      (results i).offers = slice (contextDifference ids before) pageSize (i + 1) ∧
      (results i).pages = pageCount (contextDifference ids before).length pageSize := by
  obtain ⟨page, size, context, ids', hparsed, hserved⟩ := createRepairCandidates_ok (h.served i hi)
  cases hparsed.symm.trans (h.asked i hi)
  obtain ⟨context', hread, rfl⟩ := h.unchanged i hi
  obtain ⟨rfl, rfl⟩ := hserved.read.unique hread
  obtain ⟨value, _, hids⟩ := hread.told
  exact ⟨hserved.bounds, albumContextIds_nodup hids, hserved.offers,
    by rw [hserved.pages, hserved.total]⟩

/-- The pages up to the last one are the difference. -/
theorem enumerates (h : CandidatesFollowed auth bindingId pageSize n ids before visits searches results)
    {i : Nat} (hi : i < n) (hlast : n = max 1 (results i).pages) :
    (List.range n).flatMap (fun i => (results i).offers) = contextDifference ids before := by
  obtain ⟨hbounds, _, _, hpages⟩ := h.page hi
  rw [← flatMap_slice_all (contextDifference ids before) hbounds.2.1 (n := n) (by omega)]
  apply List.flatMap_congr
  intro j hj
  exact (h.page (List.mem_range.mp hj)).2.2.1

end CandidatesFollowed

/-- A page of candidates is the slice of its number of the sets that the first photo is in
when the request reads them, without those recorded before the create; it is served only if
the context of the repair stood to the end of the request.  Pages that all read the same
sets enumerate the difference, each set once and in order. -/
theorem repair_candidate_pages :
    (∀ visit auth bindingId search result,
      createRepairCandidates visit auth bindingId search = .ok result →
        ∃ page pageSize context ids, parseAlbumCreateRepairPage search 20 = some (page, pageSize) ∧
          CandidatesServed visit auth bindingId page pageSize result context ids ∧
          ∀ photosetId ∈ result.offers, photosetId ∈ ids ∧ photosetId ∉ context.preContextIds) ∧
      (∀ auth bindingId pageSize n ids before visits searches results,
        CandidatesFollowed auth bindingId pageSize n ids before visits searches results →
        (∃ i < n, n = max 1 (results i).pages) →
          (List.range n).flatMap (fun i => (results i).offers) = contextDifference ids before ∧
          (contextDifference ids before).Pairwise (fun left right => left.text < right.text) ∧
          ∀ photosetId, photosetId ∈ contextDifference ids before ↔
            photosetId ∈ ids ∧ photosetId ∉ before) ∧
      ∀ visit auth bindingId search context,
        readAlbumRepairContext visit.opened visit.openedDb auth bindingId = .ok context →
        (∀ later, readAlbumRepairContext visit.closed visit.closedDb auth context.bindingId =
          .ok later → ¬ context.Stands later) →
        ∀ result, createRepairCandidates visit auth bindingId search ≠ .ok result := by
  refine ⟨?_, ?_, ?_⟩
  · intro visit auth bindingId search result h
    obtain ⟨page, pageSize, context, ids, hparsed, hserved⟩ := createRepairCandidates_ok h
    exact ⟨page, pageSize, context, ids, hparsed, hserved, fun _ => hserved.offered⟩
  · intro auth bindingId pageSize n ids before visits searches results hfollowed ⟨i, hi, hlast⟩
    obtain ⟨_, hnodup, _⟩ := hfollowed.page hi
    exact ⟨hfollowed.enumerates hi hlast, contextDifference_ascends hnodup before,
      fun _ => mem_contextDifference⟩
  · intro visit auth bindingId search context hcontext hchanged result h
    obtain ⟨_, _, context', _, _, hserved⟩ := createRepairCandidates_ok h
    cases hserved.read.opened.symm.trans hcontext
    obtain ⟨later, hlater, hstands⟩ := hserved.stands
    exact hchanged later hlater hstands

/-! ## Sets that change between two pages -/

namespace AlbumSample

def second : Token := ⟨"photoset-2", Eq.refl true⟩
def third : Token := ⟨"photoset-3", Eq.refl true⟩

/-- An answer of `flickr.photos.getAllContexts`. -/
def contextsOf (ids : List Token) : JsonValue :=
  .object
    [("stat", .text "ok"),
      ("set", .array (ids.map fun id => .object [("id", .text id.text), ("title", .text "Trip")])),
      ("pool", .array [])]

/-- An answer of `flickr.photosets.getInfo`. -/
def infoOf (photosetId : Token) : JsonValue :=
  .object
    [("stat", .text "ok"),
      ("photoset", .object
        [("id", .text photosetId.text), ("owner", .text owner), ("primary", .text "photo-1"),
          ("title", .object [("_content", .text "Trip")])])]

/-- The URL of an address under `https://www.flickr.com`. -/
def albumUrl (address : String) : Option WebUrl :=
  some ⟨"https:", "www.flickr.com", "", "", "", "", "", String.ofList (address.toList.drop 22)⟩

/-- Everything answers, and the first photo is in these sets. -/
def readsOf (ids : List Token) : RepairReads where
  current _ := .ok ()
  reserveReads _ := .ok ()
  contexts _ := .ok (contextsOf ids)
  info photosetId := .ok (infoOf photosetId)
  inTime := .ok ()
  observedAt := "2026-10-17T12:00:00.000001Z"
  parse := albumUrl

def visitOf (db : AlbumDb) (ids : List Token) : RepairVisit :=
  ⟨⟨world, 8⟩, db, readsOf ids, ⟨world, 9⟩, db⟩

end AlbumSample

/-- A photoset leaves the first photo after the first page, and the second page is served
from the sets that are left: the set in between is offered on no page. -/
theorem changed_sets_are_served : ∃ db first later,
    createRepairCandidates (AlbumSample.visitOf db
        [AlbumSample.selected, AlbumSample.second, AlbumSample.third])
      AlbumSample.plugin AlbumSample.album "?page=1&page_size=1" = .ok first ∧
    createRepairCandidates (AlbumSample.visitOf db [AlbumSample.second, AlbumSample.third])
      AlbumSample.plugin AlbumSample.album "?page=2&page_size=1" = .ok later ∧
    first.offers = [AlbumSample.selected] ∧ first.pages = 3 ∧
    later.offers = [AlbumSample.third] ∧ later.pages = 2 := by
  have hfacts : ∃ db ∈ execAll AlbumMove.exec emptyAlbumDb AlbumSample.unresolved,
      ∃ first ∈ (createRepairCandidates (AlbumSample.visitOf db
          [AlbumSample.selected, AlbumSample.second, AlbumSample.third])
        AlbumSample.plugin AlbumSample.album "?page=1&page_size=1").toOption,
      ∃ later ∈ (createRepairCandidates (AlbumSample.visitOf db
          [AlbumSample.second, AlbumSample.third])
        AlbumSample.plugin AlbumSample.album "?page=2&page_size=1").toOption,
        (first.offers = [AlbumSample.selected] ∧ first.pages = 3) ∧
        (later.offers = [AlbumSample.third] ∧ later.pages = 2) := by
    decide +kernel
  obtain ⟨db, _, first, hfirst, later, hlater, ⟨hoffers, hpages⟩, hoffers', hpages'⟩ := hfacts
  exact ⟨db, first, later, Fallible.eq_ok_of_toOption hfirst, Fallible.eq_ok_of_toOption hlater,
    hoffers, hpages, hoffers', hpages'⟩

end FlickrGroupAddr
