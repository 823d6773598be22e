import FlickrGroupAddr.GroupSnapshots
import FlickrGroupAddr.PhotoPages

/-!
# Remote page arithmetic

The three readers of pages that Flickr sends agree on what the numbers of a page mean:
what is accepted is the page of that number in a listing of the declared length.  The
loop that refreshes the groups ends within its bound whatever it is answered.
-/

open Paging

namespace FlickrGroupAddr

set_option autoImplicit false

open Transition

/-! ## Numbers -/

/-- A number that is read off a page is a safe integer. -/
theorem pageInteger_le {value : JsonValue} {n : Nat} (h : pageInteger value = some n) :
    n ≤ 9007199254740991 := by
  unfold pageInteger at h
  split at h
  · obtain ⟨hsafe, rfl⟩ := Option.ite_none_right_eq_some.mp h |>.imp_right Option.some.inj
    omega
  · obtain ⟨hsafe, rfl⟩ := Option.ite_none_right_eq_some.mp h |>.imp_right Option.some.inj
    exact hsafe.2
  · cases h

/-- The rounded quotient still has the number of pages above it. -/
theorem ceilQuotient_eq {total size : Nat} (htotal : total ≤ 9007199254740991)
    (hsize : 1 ≤ size) (hle : size ≤ 100) : ceilQuotient total size = pageCount total size := by
  rw [ceilQuotient, Binary64.ceil_roundMagnitude_div (by omega) hsize (by omega)]
  exact ceil_quotient hsize

/-! ## Rows -/

/-- An id that is read is none of those before it. -/
theorem freshId_not_mem {seen : List Token} {row : JsonValue} {id : Token}
    (h : freshId seen row = some id) : id ∉ seen := by
  unfold freshId at h
  split at h
  · split at h
    · obtain ⟨hfresh, rfl⟩ := Option.ite_none_left_eq_some.mp h |>.imp_right Option.some.inj
      exact hfresh
    · cases h
  · cases h

section ReadRows

variable {α : Type} {read : List Token → JsonValue → Except PhotoPageFault α} {idOf : α → Token}

/-- Every row gives one item, and no id comes twice. -/
theorem readRows_ok (hread : ∀ seen row item, read seen row = .ok item → idOf item ∉ seen)
    {rows : List JsonValue} {seen : List Token} {items : List α}
    (h : readRows read idOf seen rows = .ok items) :
    items.length = rows.length ∧ (items.map idOf).Nodup ∧ ∀ item ∈ items, idOf item ∉ seen := by
  induction rows generalizing seen items with
  | nil =>
      cases h
      simp
  | cons row rows ih =>
      rw [readRows] at h
      split at h
      · cases h
      next item hitem =>
      split at h
      · cases h
      next rest hrest =>
      cases h
      obtain ⟨hlength, hnodup, hfresh⟩ := ih hrest
      refine ⟨by simp [hlength], ?_, ?_⟩
      · rw [List.map_cons, List.nodup_cons]
        refine ⟨?_, hnodup⟩
        intro hmem
        obtain ⟨later, hlater, hsame⟩ := List.mem_map.mp hmem
        exact hfresh later hlater (by simp [hsame])
      · intro found hfound
        rcases List.mem_cons.mp hfound with rfl | hlater
        · exact hread _ _ _ hitem
        · intro hseen
          exact hfresh found hlater (List.mem_cons_of_mem _ hseen)

end ReadRows

variable {parse : String → Option WebUrl} {owner : String} {minUploadDate maxUploadDate : Nat}

theorem discoveredPhoto_fresh {seen : List Token} {row : JsonValue} {photo : DiscoveredPhoto}
    (h : discoveredPhoto parse owner seen row = .ok photo) : photo.flickrPhotoId ∉ seen := by
  unfold discoveredPhoto at h
  split at h
  · cases h
  next found hfound =>
  have hphoto : found = photo := by
    split at h
    · cases h
    · split at h
      · exact Except.ok.inj h
      · cases h
  subst hphoto
  unfold discoveredRow at hfound
  split at hfound
  · next id _ _ _ _ hid _ _ _ _ =>
      obtain ⟨_, rfl⟩ := Option.ite_none_right_eq_some.mp hfound |>.imp_right Option.some.inj
      exact freshId_not_mem hid
  · cases hfound

theorem uploadCandidate_fresh {seen : List Token} {row : JsonValue} {photo : UploadCandidate}
    (h : uploadCandidate parse owner minUploadDate maxUploadDate seen row = .ok photo) :
    photo.flickrPhotoId ∉ seen := by
  unfold uploadCandidate at h
  split at h
  · cases h
  next id title uploaded hrow =>
  have hphoto : photo.flickrPhotoId = id := by
    cases hthumbnail : candidateThumbnail parse (row.field "url_q") with
    | error fault =>
        rw [hthumbnail] at h
        cases h
    | ok thumbnail =>
        rw [hthumbnail] at h
        cases h
        rfl
  rw [hphoto]
  unfold candidateRow at hrow
  split at hrow
  · next id' _ _ hid _ _ =>
      obtain ⟨_, heq⟩ := Option.ite_none_right_eq_some.mp hrow |>.imp_right Option.some.inj
      cases heq
      exact freshId_not_mem hid
  · cases hrow

/-- A validated page has a group for each row. -/
theorem pageGroups_length {rows : List JsonValue} {groups : List Group}
    (h : pageGroups rows = some groups) : groups.length = rows.length := by
  have hmap := (Option.filter_eq_some_iff.mp h).1
  clear h
  induction rows generalizing groups with
  | nil =>
      cases hmap
      rfl
  | cons row rows ih =>
      rw [List.mapM_cons] at hmap
      obtain ⟨group, _, hgroup⟩ := Option.bind_eq_some_iff.mp hmap
      obtain ⟨rest, hrest, heq⟩ := Option.bind_eq_some_iff.mp hgroup
      cases heq
      rw [List.length_cons, List.length_cons, ih hrest]

/-! ## Accepted pages -/

/-- The numbers that an answer of `flickr.groups.pools.getGroups` declares. -/
def groupPageHead (value : JsonValue) : Option PageHead :=
  match pageRoot value with
  | none => none
  | some root =>
      match (root.field "page").bind pageInteger, (root.field "pages").bind pageInteger,
        (root.field "total").bind pageInteger, pageSize root with
      | some page, some pages, some total, some size => some ⟨page, pages, total, size⟩
      | _, _, _, _ => none

/-- The validators. -/
inductive PageReader where
  | groups
  | existingPhotos (owner : String)
  | uploadCandidates (owner : String) (minUploadDate maxUploadDate : Nat)

/-- What an answer declares to a validator. -/
def PageReader.declared : PageReader → JsonValue → Option PageHead
  | .groups, value => groupPageHead value
  | .existingPhotos _, value | .uploadCandidates _ _ _, value =>
      (photosRoot value).bind photoPageHead

/-- `reader.Accepts parse size page value ids`: asked for a page of a size, the validator
takes the answer and these are the ids of its rows. -/
inductive PageReader.Accepts (parse : String → Option WebUrl) :
    PageReader → Nat → Nat → JsonValue → List Token → Prop
  | groups {page : Nat} {value : JsonValue} {parsed : GroupPage} :
      validateGroupPage value page = some parsed →
      Accepts parse .groups groupPageSize page value (parsed.groups.map Group.flickrGroupId)
  | existingPhotos {query : PhotoQuery} {owner : String} {value : JsonValue}
      {parsed : DiscoveredPhotos} :
      validateDiscovery parse value query owner = .ok parsed →
      Accepts parse (.existingPhotos owner) query.size query.page value
        (parsed.photos.map DiscoveredPhoto.flickrPhotoId)
  | uploadCandidates {query : PhotoQuery} {owner : String} {minUploadDate maxUploadDate : Nat}
      {value : JsonValue} {parsed : CandidatePage} :
      validateUploadCandidatePage parse value query owner minUploadDate maxUploadDate =
        .ok parsed →
      Accepts parse (.uploadCandidates owner minUploadDate maxUploadDate) query.size query.page
        value (parsed.photos.map UploadCandidate.flickrPhotoId)

/-- The declared number of pages is the one the total and the size give. -/
def PageHead.Counted (head : PageHead) : Prop :=
  head.pages = pageCount head.total head.size ∨ (head.total = 0 ∧ head.pages = 1)

/-- The page is the one of its number in the listing that is declared. -/
structure PageHead.Placed (head : PageHead) (size page : Nat) (ids : List Token) : Prop where
  page_eq : head.page = page
  size_eq : head.size = size
  size_pos : 1 ≤ size
  counted : head.Counted
  length : ids.length = rowsOn head.total size page
  nodup : ids.Nodup

theorem photoPageHead_total_le {root : JsonValue} {head : PageHead}
    (h : photoPageHead root = some head) : head.total ≤ 9007199254740991 := by
  unfold photoPageHead at h
  split at h
  · next htotal _ =>
      cases h
      obtain ⟨_, _, hvalue⟩ := Option.bind_eq_some_iff.mp htotal
      exact pageInteger_le hvalue
  · cases h

theorem validateGroupPage_placed {value : JsonValue} {page : Nat} {parsed : GroupPage}
    (h : validateGroupPage value page = some parsed) :
    ∃ head, groupPageHead value = some head ∧
      head.Placed groupPageSize page (parsed.groups.map Group.flickrGroupId) ∧
      head.total = parsed.total ∧ parsed.pages = max 1 head.pages ∧
      head.pages ≤ groupPageLimit := by
  unfold validateGroupPage at h
  split at h
  · cases h
  next root hroot =>
  split at h
  · next page' pages total perPage rows hpage hpages htotal hperPage hrows =>
      obtain ⟨hchecks, h⟩ := Option.ite_none_right_eq_some.mp h
      obtain ⟨groups, hgroups, rfl⟩ := Option.map_eq_some_iff.mp h
      obtain ⟨rfl, rfl, hlimit, _, hcount, hlength⟩ := hchecks
      have hmapped := pageGroups_length hgroups
      refine ⟨⟨page', pages, total, groupPageSize⟩, ?_, ⟨rfl, rfl, by decide, ?_, ?_, ?_⟩, rfl,
        rfl, hlimit⟩
      · simp only [groupPageHead, hroot, hpage, hpages, htotal, hperPage]
      · simpa [PageHead.Counted, pageCount, Nat.ceilDiv_eq_add_pred_div, groupPageSize] using hcount
      · rw [List.length_map, hmapped, hlength]
        rfl
      · exact pageGroups_nodup hgroups
  · cases h

theorem validateDiscovery_placed {value : JsonValue} {query : PhotoQuery}
    {parsed : DiscoveredPhotos} (h : validateDiscovery parse value query owner = .ok parsed) :
    ∃ head, (photosRoot value).bind photoPageHead = some head ∧
      head.Placed query.size query.page (parsed.photos.map DiscoveredPhoto.flickrPhotoId) := by
  unfold validateDiscovery at h
  split at h
  · cases h
  next root hroot =>
  split at h
  · next head rows hhead hrows =>
      split at h
      · next hfits =>
          obtain ⟨hpage, hsize, hcount, hlength⟩ := hfits
          cases hread : readRows (discoveredPhoto parse owner) DiscoveredPhoto.flickrPhotoId []
              rows with
          | error fault =>
              rw [hread] at h
              cases h
          | ok photos =>
              rw [hread] at h
              cases h
              obtain ⟨hphotos, hnodup, _⟩ := readRows_ok (fun _ _ _ => discoveredPhoto_fresh) hread
              have hceil := ceilQuotient_eq (photoPageHead_total_le hhead) query.size_pos
                query.size_le
              refine ⟨head, by rw [hroot]; exact hhead, hpage, hsize, query.size_pos, ?_, ?_, hnodup⟩
              · rw [hsize, hceil] at hcount
                rw [PageHead.Counted, hsize]
                exact_mod_cast hcount
              · rw [List.length_map, hphotos, hlength, hsize, hpage]
                rfl
      · cases h
  · cases h

/-- What the checks on the numbers of a listing with rows leave. -/
theorem candidateRange_ok {head : PageHead} {rows : List JsonValue}
    (h : candidateRange head rows = .ok ()) :
    (head.pages : Int) = ceilQuotient head.total head.size ∧
      rows.length = expectedRows head.total head.size head.page := by
  unfold candidateRange at h
  split at h
  · cases h
  next hpages =>
  split at h
  · split at h <;> cases h
  split at h
  · cases h
  next hrows =>
  exact ⟨not_not.mp hpages, not_not.mp hrows⟩

theorem validateUploadCandidatePage_placed {value : JsonValue} {query : PhotoQuery}
    {parsed : CandidatePage}
    (h : validateUploadCandidatePage parse value query owner minUploadDate maxUploadDate =
      .ok parsed) :
    ∃ head, (photosRoot value).bind photoPageHead = some head ∧
      head.Placed query.size query.page (parsed.photos.map UploadCandidate.flickrPhotoId) := by
  unfold validateUploadCandidatePage at h
  split at h
  · cases h
  next root hroot =>
  split at h
  · cases h
  next head hhead =>
  have hdeclared : (photosRoot value).bind photoPageHead = some head := by
    rw [hroot]
    exact hhead
  split at h
  · cases h
  next rows hrows =>
  split at h
  · cases h
  next hfits =>
  obtain ⟨hpage, hsize, _, _⟩ := not_not.mp hfits
  split at h
  · next hzero =>
      split at h
      · cases h
      next hempty =>
      split at h
      · cases h
      next hfirst =>
      cases h
      refine ⟨head, hdeclared, hpage, hsize, query.size_pos, ?_, ?_, List.nodup_nil⟩
      · rw [PageHead.Counted, hzero, pageCount_zero]
        omega
      · simp [rowsOn, hzero]
  · split at h
    · cases h
    next hrange =>
    obtain ⟨hcount, hlength⟩ := candidateRange_ok hrange
    cases hread : readRows (uploadCandidate parse owner minUploadDate maxUploadDate)
        UploadCandidate.flickrPhotoId [] rows with
    | error fault =>
        rw [hread] at h
        cases h
    | ok photos =>
        rw [hread] at h
        cases h
        obtain ⟨hphotos, hnodup, _⟩ := readRows_ok (fun _ _ _ => uploadCandidate_fresh) hread
        have hceil := ceilQuotient_eq (photoPageHead_total_le hhead) query.size_pos query.size_le
        refine ⟨head, hdeclared, hpage, hsize, query.size_pos, Or.inl ?_, ?_, hnodup⟩
        · rw [hsize, hceil] at hcount
          rw [hsize]
          exact_mod_cast hcount
        · rw [List.length_map, hphotos, hlength, hsize, hpage]
          rfl

/-- What an accepted page is, for each of the validators. -/
theorem PageReader.Accepts.placed {reader : PageReader} {size page : Nat} {value : JsonValue}
    {ids : List Token} (h : reader.Accepts parse size page value ids) :
    ∃ head, reader.declared value = some head ∧ head.Placed size page ids := by
  cases h with
  | groups h =>
      obtain ⟨head, hdeclared, hplaced, _⟩ := validateGroupPage_placed h
      exact ⟨head, hdeclared, hplaced⟩
  | existingPhotos h => exact validateDiscovery_placed h
  | uploadCandidates h => exact validateUploadCandidatePage_placed h

/-! ## A whole listing -/

/-- Pages one to `n` of one listing: all were accepted, and all declared one total. -/
structure PageListing (parse : String → Option WebUrl) (reader : PageReader)
    (size total n : Nat) (values : Nat → JsonValue) (ids : Nat → List Token) : Prop where
  size_pos : 1 ≤ size
  accepted : ∀ i < n, reader.Accepts parse size (i + 1) (values i) (ids i)
  total_eq : ∀ i < n, ∀ head, reader.declared (values i) = some head → head.total = total

namespace PageListing

variable {reader : PageReader} {size total n : Nat} {values : Nat → JsonValue}
  {ids : Nat → List Token}

theorem placed (h : PageListing parse reader size total n values ids) {i : Nat} (hi : i < n) :
    ∃ head, reader.declared (values i) = some head ∧ head.total = total ∧
      head.Placed size (i + 1) (ids i) := by
  obtain ⟨head, hdeclared, hplaced⟩ := (h.accepted i hi).placed
  exact ⟨head, hdeclared, h.total_eq i hi head hdeclared, hplaced⟩

theorem length_eq (h : PageListing parse reader size total n values ids) {i : Nat} (hi : i < n) :
    (ids i).length = rowsOn total size (i + 1) := by
  obtain ⟨head, _, rfl, hplaced⟩ := h.placed hi
  exact hplaced.length

/-- The pages hold as many rows as the declared total. -/
theorem rows_eq (h : PageListing parse reader size total n values ids)
    (hall : pageCount total size ≤ n) : ∑ i ∈ Finset.range n, (ids i).length = total := by
  rw [Finset.sum_congr rfl fun i hi => h.length_eq (Finset.mem_range.mp hi)]
  exact sum_rowsOn_all h.size_pos hall

/-- Every page before the last is full. -/
theorem full (h : PageListing parse reader size total n values ids) {i : Nat} (hi : i < n)
    (hlast : i + 1 < pageCount total size) : (ids i).length = size := by
  rw [h.length_eq hi]
  exact rowsOn_of_lt h.size_pos (Nat.le_add_left 1 i) hlast

end PageListing

/-! ## The loop of a refresh -/

/-- How the loop over the pages ends; `unfinished` is a loop whose fuel has run out. -/
inductive PagesEnd where
  | finished (loop : RefreshLoop)
  | thrown
  | unfinished (loop : RefreshLoop)

/-- The loop of `refreshGroups` under one grant: each page is answered, checked and taken. -/
def RefreshLoop.readPages (answers : Nat → JsonValue) : Nat → RefreshLoop → PagesEnd
  | fuel, loop =>
      if loop.page ≤ loop.pages then
        match fuel with
        | 0 => .unfinished loop
        | fuel + 1 =>
            match (validateGroupPage (answers loop.page) loop.page).filter
              fun page => loop.takes page with
            | none => .thrown
            | some page =>
                readPages answers fuel
                  (loop.push ⟨loop.page, answers loop.page, page, loop.grant.generation⟩)
      else if loop.total = some loop.count then .finished loop
      else .thrown

/-- What is believed of a listing bounds the loop. -/
theorem validateGroupPage_pages_le {value : JsonValue} {expectedPage : Nat} {page : GroupPage}
    (h : validateGroupPage value expectedPage = some page) : page.pages ≤ groupPageLimit := by
  obtain ⟨head, _, _, _, hpages, hlimit⟩ := validateGroupPage_placed h
  rw [hpages]
  exact max_le (by decide) hlimit

namespace RefreshLoop

/-- The loop is within its bound. -/
theorem Agreed.pages_le {loop : RefreshLoop} (h : loop.Agreed) : loop.pages ≤ groupPageLimit := by
  cases hreceipts : loop.receipts with
  | nil => simp [RefreshLoop.pages, hreceipts, groupPageLimit]
  | cons first rest =>
      have hfirst : first ∈ loop.receipts := by simp [hreceipts]
      rw [← (h.totals first hfirst).1]
      exact validateGroupPage_pages_le (h.valid first hfirst)

theorem Agreed.length_le {loop : RefreshLoop} (h : loop.Agreed) :
    loop.receipts.length ≤ groupPageLimit := by
  by_cases hnone : loop.receipts = []
  · simp [hnone]
  · exact (h.length hnone).trans h.pages_le

/-- The loop reads on from pages that agree until it has read all of them, and has fuel
for that. -/
theorem readPages_ends {answers : Nat → JsonValue} {fuel : Nat} {loop : RefreshLoop}
    (h : loop.Agreed) (hfuel : groupPageLimit ≤ loop.receipts.length + fuel) :
    loop.readPages answers fuel = .thrown ∨
      ∃ last, loop.readPages answers fuel = .finished last ∧ last.Agreed ∧ last.finished := by
  induction fuel generalizing loop with
  | zero =>
      have hdone : ¬ loop.page ≤ loop.pages := by
        have hpages := h.pages_le
        simp only [RefreshLoop.page]
        omega
      rw [readPages, if_neg hdone]
      by_cases htotal : loop.total = some loop.count
      · rw [if_pos htotal]
        exact Or.inr ⟨loop, rfl, h, Nat.lt_of_not_le hdone, htotal⟩
      · rw [if_neg htotal]
        exact Or.inl rfl
  | succ fuel ih =>
      rw [readPages]
      by_cases hmore : loop.page ≤ loop.pages
      · rw [if_pos hmore]
        split
        · exact Or.inl rfl
        next page hpage =>
        obtain ⟨hvalid, htakes⟩ := Option.filter_eq_some_iff.mp hpage
        have hfits : loop.Fits ⟨loop.page, answers loop.page, page, loop.grant.generation⟩ :=
          ⟨rfl, hvalid, rfl, of_decide_eq_true htakes, hmore⟩
        apply ih (h.push hfits)
        simp only [push, List.length_append, List.length_singleton]
        omega
      · rw [if_neg hmore]
        by_cases htotal : loop.total = some loop.count
        · rw [if_pos htotal]
          exact Or.inr ⟨loop, rfl, h, Nat.lt_of_not_le hmore, htotal⟩
        · rw [if_neg htotal]
          exact Or.inl rfl

end RefreshLoop

/-! ## An invocation among others -/

/-- The event asks for a page. -/
def CatalogueEvent.asks : CatalogueEvent → Bool
  | .ask _ _ => true
  | _ => false

/-- How many pages an invocation can have asked for where it is. -/
def RefreshStage.pagesAsked : RefreshStage → Nat
  | .selected | .claimed | .versioned _ => 0
  | .reading loop => loop.receipts.length
  | .asked loop _ | .answered loop _ _ | .parsed loop _ | .confirmed loop _ =>
      loop.receipts.length + 1
  | .failing | .ended => groupPageLimit

/-- How many moves an invocation can have made since its claim. -/
def RefreshStage.movesMade : RefreshStage → Nat
  | .selected | .claimed => 0
  | .versioned _ => 1
  | .reading loop => 5 * loop.receipts.length + 2
  | .asked loop _ => 5 * loop.receipts.length + 3
  | .answered loop _ _ => 5 * loop.receipts.length + 4
  | .parsed loop _ => 5 * loop.receipts.length + 5
  | .confirmed loop _ => 5 * loop.receipts.length + 6
  | .failing => 5 * groupPageLimit + 3
  | .ended => 5 * groupPageLimit + 4

/-- The moves that an invocation makes after its claim, at the most. -/
def refreshMoveLimit : Nat := 5 * groupPageLimit + 4

/-- Where the loop stands is within its bound. -/
theorem RefreshStage.Ok.within {job : RefreshJob} {stage : RefreshStage} (h : stage.Ok job) :
    stage.pagesAsked ≤ groupPageLimit ∧ stage.movesMade ≤ refreshMoveLimit ∧
      (stage ≠ .failing → stage ≠ .ended → stage.movesMade < 5 * groupPageLimit + 3) := by
  have hlast : ∀ loop : RefreshLoop, loop.Agreed → loop.page ≤ loop.pages →
      loop.receipts.length + 1 ≤ groupPageLimit := by
    intro loop hagreed hmore
    exact hmore.trans hagreed.pages_le
  cases stage with
  | selected | claimed | versioned | failing | ended =>
      simp [pagesAsked, movesMade, groupPageLimit, refreshMoveLimit]
  | reading loop =>
      have hlength := h.2.length_le
      simp only [pagesAsked, movesMade, refreshMoveLimit]
      omega
  | asked loop _ =>
      have hlength := hlast loop h.2.1 h.2.2.1
      simp only [pagesAsked, movesMade, refreshMoveLimit]
      omega
  | answered loop _ _ =>
      have hlength := hlast loop h.2.1 h.2.2.1
      simp only [pagesAsked, movesMade, refreshMoveLimit]
      omega
  | parsed loop _ =>
      have hlength := hlast loop h.2.1 h.2.2.within
      simp only [pagesAsked, movesMade, refreshMoveLimit]
      omega
  | confirmed loop _ =>
      have hlength := hlast loop h.2.1 h.2.2.within
      simp only [pagesAsked, movesMade, refreshMoveLimit]
      omega

namespace CatalogueState

variable {s s' : CatalogueState}

/-- What a move of an invocation does to how far it is: only one that has not claimed its
job is forgotten, and from the claim on every move takes it further. -/
theorem work_progress {worker : Nat} {job : RefreshJob} {event : CatalogueEvent}
    {stage : RefreshStage} (hok : stage.Ok job) (h : s.work worker job event stage = some s') :
    (s'.workers = Function.update s.workers worker none ∧ stage = .selected ∧
        event.asks = false) ∨
      ∃ stage', s'.workers = Function.update s.workers worker (some ⟨job, stage'⟩) ∧
        (stage ≠ .selected → stage.movesMade < stage'.movesMade) ∧
        stage.pagesAsked + (if event.asks then 1 else 0) ≤ stage'.pagesAsked := by
  have hwithin := hok.within
  unfold work at h
  split at h
  · next told =>
      obtain ⟨tables, _, rfl⟩ := Option.map_eq_some_iff.mp h
      exact Or.inr ⟨_, rfl, by simp, by simp [RefreshStage.pagesAsked, CatalogueEvent.asks]⟩
  · obtain ⟨version, _, rfl⟩ := Option.map_eq_some_iff.mp h
    exact Or.inr ⟨_, rfl, by simp [RefreshStage.movesMade],
      by simp [RefreshStage.pagesAsked, CatalogueEvent.asks]⟩
  · obtain ⟨grant, _, rfl⟩ := Option.map_eq_some_iff.mp h
    exact Or.inr ⟨_, rfl, by simp [RefreshStage.movesMade],
      by simp [RefreshStage.pagesAsked, CatalogueEvent.asks]⟩
  · obtain ⟨_, h⟩ := Option.ite_none_right_eq_some.mp h
    cases h
    exact Or.inr ⟨_, rfl, by simp [RefreshStage.movesMade],
      by simp [RefreshStage.pagesAsked, CatalogueEvent.asks]⟩
  · cases h
    exact Or.inr ⟨_, rfl, by simp [RefreshStage.movesMade],
      by simp [RefreshStage.pagesAsked, CatalogueEvent.asks]⟩
  · obtain ⟨page, _, rfl⟩ := Option.map_eq_some_iff.mp h
    exact Or.inr ⟨_, rfl, by simp [RefreshStage.movesMade],
      by simp [RefreshStage.pagesAsked, CatalogueEvent.asks]⟩
  · obtain ⟨_, h⟩ := Option.ite_none_right_eq_some.mp h
    cases h
    exact Or.inr ⟨_, rfl, by simp [RefreshStage.movesMade],
      by simp [RefreshStage.pagesAsked, CatalogueEvent.asks]⟩
  · next now told loop receipt =>
      obtain ⟨tables, _, rfl⟩ := Option.map_eq_some_iff.mp h
      have hasked := hwithin.1
      have hmoves := hwithin.2.2 (by simp) (by simp)
      simp only [RefreshStage.pagesAsked] at hasked
      simp only [RefreshStage.movesMade] at hmoves
      cases told with
      | false =>
          exact Or.inr ⟨.failing, rfl, fun _ => hmoves,
            by simpa [RefreshStage.pagesAsked, CatalogueEvent.asks] using hasked⟩
      | true =>
          refine Or.inr ⟨.reading (loop.push receipt), rfl, ?_, ?_⟩
          · simp [RefreshStage.movesMade, RefreshLoop.push]
            omega
          · simp [RefreshStage.pagesAsked, RefreshLoop.push, CatalogueEvent.asks]
  · next guardNow updateNow told loop =>
      obtain ⟨_, h⟩ := Option.ite_none_right_eq_some.mp h
      obtain ⟨tables, _, rfl⟩ := Option.map_eq_some_iff.mp h
      have hasked := hwithin.1
      have hmoves := hwithin.2.2 (by simp) (by simp)
      simp only [RefreshStage.pagesAsked] at hasked
      simp only [RefreshStage.movesMade] at hmoves
      cases told with
      | false =>
          exact Or.inr ⟨.failing, rfl, fun _ => hmoves,
            by simpa [RefreshStage.pagesAsked, CatalogueEvent.asks] using hasked⟩
      | true =>
          exact Or.inr ⟨.ended, rfl, fun _ => Nat.lt_succ_of_lt hmoves,
            by simpa [RefreshStage.pagesAsked, CatalogueEvent.asks] using hasked⟩
  · cases h
    exact Or.inl ⟨rfl, rfl, rfl⟩
  · cases h
    exact Or.inr ⟨_, rfl, by simp [RefreshStage.movesMade],
      by simp [RefreshStage.pagesAsked, CatalogueEvent.asks]⟩
  · cases h
  · next hselected hfailing hended =>
      cases h
      refine Or.inr ⟨_, rfl, ?_, by simpa [RefreshStage.pagesAsked, CatalogueEvent.asks] using hwithin.1⟩
      intro _
      exact hwithin.2.2 hfailing hended
  · cases h
    exact Or.inr ⟨_, rfl, by simp [RefreshStage.movesMade],
      by simp [RefreshStage.pagesAsked, CatalogueEvent.asks]⟩
  · cases h

/-- What an event does to one invocation: it leaves it alone, starts it, or is its own. -/
theorem exec_progress {event : CatalogueEvent} (hinv : CatalogueInv s)
    (h : s.exec event = some s') (worker : Nat) :
    (s'.workers worker = s.workers worker ∧ actor event ≠ some worker) ∨
      (s.workers worker = none ∧ actor event = none ∧
        ∃ job, s'.workers worker = some ⟨job, .selected⟩) ∨
      ∃ running, s.workers worker = some running ∧ actor event = some worker ∧
        ((s'.workers worker = none ∧ running.stage = .selected ∧ event.asks = false) ∨
          ∃ stage', s'.workers worker = some ⟨running.job, stage'⟩ ∧
            (running.stage ≠ .selected → running.stage.movesMade < stage'.movesMade) ∧
            running.stage.pagesAsked + (if event.asks then 1 else 0) ≤ stage'.pagesAsked) := by
  unfold exec at h
  split at h
  · cases h
    exact Or.inl ⟨rfl, by simp [actor]⟩
  · cases h
    exact Or.inl ⟨rfl, by simp [actor]⟩
  · obtain ⟨_, h⟩ := Option.ite_none_left_eq_some.mp h
    obtain ⟨tables, _, rfl⟩ := Option.map_eq_some_iff.mp h
    exact Or.inl ⟨rfl, by simp [actor]⟩
  · next other job =>
      obtain ⟨⟨hnone, _⟩, h⟩ := Option.ite_none_right_eq_some.mp h
      cases h
      by_cases hsame : worker = other
      · subst hsame
        exact Or.inr (Or.inl ⟨by simpa using hnone, rfl, job, by simp [advance, setWorker]⟩)
      · exact Or.inl ⟨by simp [advance, setWorker, hsame], by simp [actor]⟩
  · next other _ _ _ _ hactor =>
      obtain ⟨running, hrunning, hwork⟩ := Option.bind_eq_some_iff.mp h
      have hprogress := work_progress (hinv.stages other running hrunning) hwork
      by_cases hsame : worker = other
      · subst hsame
        refine Or.inr (Or.inr ⟨running, hrunning, hactor, ?_⟩)
        rcases hprogress with ⟨hworkers, hselected, hasks⟩ | ⟨stage', hworkers, hmoves, hasks⟩
        · exact Or.inl ⟨by simp [hworkers], hselected, hasks⟩
        · exact Or.inr ⟨stage', by simp [hworkers], hmoves, hasks⟩
      · have hkept : s'.workers worker = s.workers worker := by
          rcases hprogress with ⟨hworkers, _⟩ | ⟨stage', hworkers, _⟩ <;> simp [hworkers, hsame]
        refine Or.inl ⟨hkept, ?_⟩
        rw [hactor]
        simpa using fun heq => hsame heq.symm
  · cases h

end CatalogueState

/-- The move asks for a page on behalf of an invocation. -/
def asksFor (worker : Nat) (move : Move CatalogueState CatalogueEvent) : Bool :=
  decide (CatalogueState.actor move.label = some worker) && move.label.asks

/-- The move is one of an invocation that has claimed its job. -/
def continues (worker : Nat) (move : Move CatalogueState CatalogueEvent) : Bool :=
  decide (CatalogueState.actor move.label = some worker) &&
    (move.src.workers worker).any fun running =>
      match running.stage with
      | .selected => false
      | _ => true

section Runs

variable {s t : CatalogueState} {trace : List (Move CatalogueState CatalogueEvent)}

/-- A number that is read off where an invocation is. -/
def CatalogueState.progress (worker : Nat) (measure : RefreshStage → Nat) (s : CatalogueState) :
    Nat :=
  match s.workers worker with
  | none => 0
  | some running => measure running.stage

theorem CatalogueInv.progress_le (hinv : CatalogueInv s) (worker : Nat) :
    s.progress worker RefreshStage.pagesAsked ≤ groupPageLimit ∧
      s.progress worker RefreshStage.movesMade ≤ refreshMoveLimit := by
  unfold CatalogueState.progress
  split
  · simp
  · next running hrunning =>
      have hwithin := (hinv.stages worker running hrunning).within
      exact ⟨hwithin.1, hwithin.2.1⟩

/-- One move takes an invocation as far as it is counted. -/
theorem CatalogueInv.progress_step {event : CatalogueEvent} (hinv : CatalogueInv s)
    (h : catalogueStep s event t) (worker : Nat) :
    s.progress worker RefreshStage.pagesAsked + (if asksFor worker ⟨s, event, t⟩ then 1 else 0) ≤
        t.progress worker RefreshStage.pagesAsked ∧
      s.progress worker RefreshStage.movesMade + (if continues worker ⟨s, event, t⟩ then 1 else 0) ≤
        t.progress worker RefreshStage.movesMade := by
  rcases CatalogueState.exec_progress hinv h worker with
    ⟨hkept, hother⟩ | ⟨hnone, hother, job, hstarted⟩ | ⟨running, hrunning, hactor, hmoved⟩
  · simp [CatalogueState.progress, asksFor, continues, hkept, hother]
  · simp [CatalogueState.progress, asksFor, continues, hnone, hother]
  · rcases hmoved with ⟨hdropped, hselected, hasks⟩ | ⟨stage', hstage, hmoves, hasks⟩
    · simp [CatalogueState.progress, asksFor, continues, hrunning, hdropped, hselected, hasks,
        RefreshStage.pagesAsked, RefreshStage.movesMade]
    · simp only [CatalogueState.progress, asksFor, continues, hrunning, hstage, hactor,
        decide_true, Bool.true_and, Option.any_some]
      refine ⟨hasks, ?_⟩
      cases hnow : running.stage with
      | selected => simp [RefreshStage.movesMade]
      | _ =>
          rw [hnow] at hmoves
          simpa using hmoves (by simp)

/-- An invocation asks for no more pages than the bound, and ends. -/
theorem refresh_bounded (hinit : s.Initial) (hrun : Run catalogueStep s trace t) (worker : Nat) :
    trace.countP (asksFor worker) ≤ groupPageLimit ∧
      trace.countP (continues worker) ≤ refreshMoveLimit := by
  have hstart := CatalogueInv.init hinit
  have hlast := (hstart.run hrun).progress_le worker
  have hstep : ∀ s event t, CatalogueInv s → catalogueStep s event t → CatalogueInv t :=
    fun s event t hinv h => hinv.step (CatalogueState.exec_move h)
  have hasked := hrun.countP_le (p := asksFor worker) hstart fun s event t hinv h =>
    ⟨hstep s event t hinv h, (hinv.progress_step h worker).1⟩
  have hmoved := hrun.countP_le (p := continues worker) hstart fun s event t hinv h =>
    ⟨hstep s event t hinv h, (hinv.progress_step h worker).2⟩
  omega

end Runs

/-! ## The arithmetic -/

/-- A page is accepted only as the page of its number in the listing that it declares, so
the pages of one listing hold it; the loop of a refresh ends whatever it is answered, and
so does every invocation that runs beside others. -/
theorem remote_page_arithmetic (parse : String → Option WebUrl) :
    (∀ (reader : PageReader) (size page : Nat) (value : JsonValue) (ids : List Token),
      reader.Accepts parse size page value ids →
        ∃ head, reader.declared value = some head ∧ head.page = page ∧ head.size = size ∧
          (head.pages = pageCount head.total size ∨ (head.total = 0 ∧ head.pages = 1)) ∧
          ids.length = rowsOn head.total size page ∧ ids.Nodup) ∧
      (∀ (reader : PageReader) (size total n : Nat) (values : Nat → JsonValue)
        (ids : Nat → List Token), PageListing parse reader size total n values ids →
          (∀ i < n, ∀ head, reader.declared (values i) = some head → n = head.pages →
            ∑ j ∈ Finset.range n, (ids j).length = total ∧
              ∀ j, j + 1 < n → (ids j).length = size) ∧
          (pageCount total size ≤ n → ∑ i ∈ Finset.range n, (ids i).length = total) ∧
          (∀ i < n, (ids i).Nodup) ∧
          ∀ i < n, i + 1 < pageCount total size → (ids i).length = size) ∧
      (∀ (answers : Nat → JsonValue) (auth : AdmissionAuth) (grant : GrantSnapshot),
        (RefreshLoop.mk auth grant []).readPages answers groupPageLimit = .thrown ∨
          ∃ loop, (RefreshLoop.mk auth grant []).readPages answers groupPageLimit =
              .finished loop ∧
            loop.receipts.length ≤ groupPageLimit ∧ loop.total = some loop.count ∧
            ∀ receipt ∈ loop.receipts, loop.total = some receipt.page.total) ∧
      ∀ (s t : CatalogueState) (trace : List (Move CatalogueState CatalogueEvent)),
        s.Initial → Run catalogueStep s trace t → ∀ worker,
          trace.countP (asksFor worker) ≤ groupPageLimit ∧
            trace.countP (continues worker) ≤ refreshMoveLimit := by
  refine ⟨?_, ?_, ?_, ?_⟩
  · intro reader size page value ids haccepted
    obtain ⟨head, hdeclared, hplaced⟩ := haccepted.placed
    refine ⟨head, hdeclared, hplaced.page_eq, hplaced.size_eq, ?_, hplaced.length, hplaced.nodup⟩
    rw [← hplaced.size_eq]
    exact hplaced.counted
  · intro reader size total n values ids hlisting
    refine ⟨?_, hlisting.rows_eq, ?_, fun i hi hlast => hlisting.full hi hlast⟩
    · intro i hi head hdeclared hn
      obtain ⟨head', hdeclared', htotal, hplaced⟩ := hlisting.placed hi
      rw [hdeclared', Option.some.injEq] at hdeclared
      subst hdeclared
      have hcounted := hplaced.counted
      rw [PageHead.Counted, htotal, hplaced.size_eq, ← hn] at hcounted
      constructor
      · apply hlisting.rows_eq
        rcases hcounted with hcount | ⟨rfl, _⟩
        · exact hcount.ge
        · simp
      · intro j hj
        rcases hcounted with hcount | ⟨_, hone⟩
        · exact hlisting.full (by omega) (by omega)
        · omega
    · intro i hi
      obtain ⟨head, _, _, hplaced⟩ := hlisting.placed hi
      exact hplaced.nodup
  · intro answers auth grant
    rcases @RefreshLoop.readPages_ends answers groupPageLimit _
      (RefreshLoop.agreed_nil auth grant) (by simp) with hthrown | ⟨loop, hloop, hagreed, hfinished⟩
    · exact Or.inl hthrown
    · exact Or.inr ⟨loop, hloop, hagreed.length_le, hfinished.2,
        fun receipt hreceipt => (hagreed.totals receipt hreceipt).2⟩
  · intro s t trace hinit hrun worker
    exact refresh_bounded hinit hrun worker

end FlickrGroupAddr
