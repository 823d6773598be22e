import FlickrGroupAddr.ExistingPhotoClient
import FlickrGroupAddr.ReadPaths
import FlickrGroupAddr.SubmissionStatusClient

/-!
# The clients stay on the read surface

Every path that a client builds is the spelling of a request of the read surface, so the
transport lets it through.  The paths of later pages carry what the service sent, and the
clients check it before they go on.
-/

namespace FlickrGroupAddr

set_option autoImplicit false

open Spelling QueryText

/-! ## What the checks give -/

theorem integer?_bounds {v : LuaValue} {minimum maximum n : Nat}
    (h : v.integer? minimum maximum = some n) : minimum ≤ n ∧ n ≤ maximum := by
  cases v with
  | number x =>
      unfold LuaValue.integer? at h
      dsimp only at h
      split at h
      · obtain ⟨hbounds, h⟩ := Option.ite_none_right_eq_some.mp h
        obtain rfl := Option.some.inj h
        omega
      · cases h
  | _ => cases h

/-- A number in a text is digits. -/
theorem takeNumber_split {count found n : Nat} {text rest : Bytes}
    (h : takeNumber count found text = some (n, rest)) : ∃ digits : Bytes, text = digits ++ rest ∧
      digits.length = count ∧ ∀ byte ∈ digits, StrictJson.isDigit byte = true := by
  induction count generalizing found text with
  | zero =>
      obtain ⟨_, rfl⟩ := Prod.mk.inj (Option.some.inj h)
      exact ⟨[], rfl, rfl, by simp⟩
  | succ count ih =>
      cases text with
      | nil => cases h
      | cons current text =>
          rw [takeNumber] at h
          obtain ⟨hdigit, h⟩ := Option.ite_none_right_eq_some.mp h
          obtain ⟨digits, rfl, hlength, hdigits⟩ := ih h
          exact ⟨current :: digits, rfl, by rw [List.length_cons, hlength],
            List.forall_mem_cons.mpr ⟨hdigit, hdigits⟩⟩

theorem takeMark_eq_some {mark : Char} {text rest : Bytes} (h : takeMark mark text = some rest) :
    text = mark.toUInt8 :: rest := by
  cases text with
  | nil => cases h
  | cons current text =>
      obtain ⟨hmark, hrest⟩ := Option.ite_none_right_eq_some.mp h
      rw [hmark, Option.some.inj hrest]

theorem takeNumber_length {count found n : Nat} {text rest : Bytes}
    (h : takeNumber count found text = some (n, rest)) : text.length = count + rest.length := by
  obtain ⟨digits, rfl, hlength, _⟩ := takeNumber_split h
  rw [List.length_append, hlength]

theorem takeMark_length {mark : Char} {text rest : Bytes} (h : takeMark mark text = some rest) :
    text.length = rest.length + 1 := by
  rw [takeMark_eq_some h, List.length_cons]

theorem takeStamp_length {text rest : Bytes} {fields : StampFields}
    (h : takeStamp text = some (fields, rest)) : text.length = rest.length + 19 := by
  simp only [takeStamp, Option.bind_eq_bind, Option.bind_eq_some_iff, Option.pure_def,
    Prod.exists] at h
  obtain ⟨_, text1, h1, text2, h2, _, text3, h3, text4, h4, _, text5, h5, text6, h6, _, text7, h7,
    text8, h8, _, text9, h9, text10, h10, _, text11, h11, hlast⟩ := h
  obtain ⟨_, rfl⟩ := Prod.mk.inj (Option.some.inj hlast)
  have hyear := takeNumber_length h1
  have hmonthMark := takeMark_length h2
  have hmonth := takeNumber_length h3
  have hdayMark := takeMark_length h4
  have hday := takeNumber_length h5
  have hhourMark := takeMark_length h6
  have hhour := takeNumber_length h7
  have hminuteMark := takeMark_length h8
  have hminute := takeNumber_length h9
  have hsecondMark := takeMark_length h10
  have hsecond := takeNumber_length h11
  omega

/-- A time of the status client has the shape that the gate looks for. -/
theorem isTimeShape_of_micro {value : Bytes} (h : isMicroTimestamp value = true) :
    isTimeShape value = true := by
  unfold isMicroTimestamp at h
  split at h
  · cases h
  next fields rest hstamp =>
  rw [Bool.and_eq_true] at h
  obtain ⟨_, h⟩ := h
  split at h
  · cases h
  next fraction hmark =>
  split at h
  · cases h
  next digits last hnumber =>
  obtain ⟨six, rfl, hlength, hdigits⟩ := takeNumber_split hnumber
  obtain rfl := takeMark_eq_some hmark
  have hlast : last = ['Z'.toUInt8] := beq_iff_eq.mp h
  have hstampLength := takeStamp_length hstamp
  rw [hlast, List.length_cons, List.length_append, hlength, List.length_singleton] at hstampLength
  have hplain : ∀ byte ∈ '.'.toUInt8 :: six,
      (byte == '.'.toUInt8 || StrictJson.isDigit byte) = true := by
    rw [List.forall_mem_cons]
    refine ⟨rfl, fun byte hbyte => ?_⟩
    rw [hdigits byte hbyte, Bool.or_true]
  have hdrop : ('.'.toUInt8 :: (six ++ last)).dropWhile
      (fun byte => byte == '.'.toUInt8 || StrictJson.isDigit byte) = ['Z'.toUInt8] := by
    rw [← List.cons_append, List.dropWhile_append_of_pos hplain, hlast]
    decide
  unfold isTimeShape
  rw [hstamp]
  dsimp only
  rw [hdrop, decide_eq_true (by omega)]
  rfl

/-! ## Spellings in the order of the clients -/

theorem spelled_self (request : ReadRequest) (h : request.HasQuery) :
    (allowedPath (request.base ++ questionMark :: queryText request.parameters)).isSome = true :=
  allowedPath_spelled request h (List.Perm.refl _)

theorem discoverPath_allowed {pageNumber : LuaValue} {pageSize : Option LuaValue} {path : Bytes}
    (h : PhotoClient.discoverPath pageNumber pageSize = some path) :
    (allowedPath path).isSome = true := by
  unfold PhotoClient.discoverPath at h
  split at h
  · next page size hpage hsize =>
      obtain rfl := Option.some.inj h
      have hspelled := spelled_self (.photos ⟨page, integer?_bounds hpage⟩
        ⟨size, integer?_bounds hsize⟩) trivial
      have hstart : ascii "/api/v001/existing-public-photos?page=" =
          photosPath ++ questionMark :: (pageField ++ [equals]) := by decide +kernel
      have hnext : ascii "&page_size=" = ampersand :: (pageSizeField ++ [equals]) := by decide +kernel
      rw [hstart, hnext]
      simpa [ReadRequest.base, ReadRequest.parameters, queryText, fieldText] using hspelled
  · cases h

/-- The parameters of a page of groups as the clients write them. -/
theorem groupPage_text {revisionField : Bytes} (size : Bounded 100) (cursor : Option PageCursor) :
    queryText (groupPageParameters revisionField size cursor) =
      pageSizeField ++ equals :: decimal size ++
        match cursor with
        | none => []
        | some cursor =>
          ampersand :: (revisionField ++ equals :: decimal cursor.revision) ++
            ampersand :: (afterGroupField ++ equals :: percentEncode cursor.after) := by
  cases cursor with
  | none => simp [groupPageParameters, queryText, fieldText]
  | some cursor => simp [groupPageParameters, queryText, fieldText]

/-! ### Memberships -/

/-- The cursor of the memberships has passed its checks. -/
structure MembershipCursor (s : PhotoClient.MembershipState) : Prop where
  after : ∀ id ∈ s.after, isOpaqueId id = true
  revision : ∀ seen ∈ s.observed, 1 ≤ seen.1 ∧ seen.1 ≤ Binary64.Number.maxSafeInteger

theorem membershipStep_cursor {binding : PhotoClient.Binding} {s t : PhotoClient.MembershipState}
    {reply : Except Bytes LuaValue} (h : PhotoClient.membershipStep binding s reply = .more t) :
    MembershipCursor t := by
  cases reply with
  | error reason => cases h
  | ok page =>
      unfold PhotoClient.membershipStep at h
      dsimp only at h
      split at h
      · next revision observed rows hrevision hobserved hrows =>
          obtain ⟨value, _, hvalue⟩ := Option.bind_eq_some_iff.mp hrevision
          split at h
          · split at h
            · cases h
            split at h
            · cases h
            split at h
            · cases h
            split at h
            · cases h
            · split at h
              · next next _ hnext =>
                  cases h
                  constructor
                  · intro id hid
                    obtain rfl := Option.some.inj hid
                    exact hnext.2.1
                  · intro seen hseen
                    obtain rfl := Option.some.inj hseen
                    exact integer?_bounds hvalue
              · cases h
            · cases h
          · cases h
      · cases h

theorem membershipPath_allowed {binding : PhotoClient.Binding}
    (hbinding : isOpaqueId binding.fgaPhotoBindingId = true) {s : PhotoClient.MembershipState}
    (h : MembershipCursor s) : (allowedPath (PhotoClient.membershipPath binding s)).isSome = true := by
  have hbase : ascii "/api/v001/photo-bindings/" = bindingsPath := rfl
  have hquery : ascii "/group-memberships?page_size=100" =
      membershipsPath ++ questionMark :: (pageSizeField ++ equals :: decimal 100) := by decide +kernel
  have hrevision : ascii "&observation_revision=" = ampersand :: (observationField ++ [equals]) := by
    decide
  have hafter : ascii "&after_group_id=" = ampersand :: (afterGroupField ++ [equals]) := by decide +kernel
  unfold PhotoClient.membershipPath
  rw [hbase, hquery, hrevision, hafter]
  split
  · next id revision time hid hobserved =>
      have hspelled := spelled_self (.memberships ⟨_, hbinding⟩ ⟨100, by decide⟩
        (some ⟨⟨revision, h.revision _ hobserved⟩, ⟨id, h.after _ hid⟩⟩)) trivial
      rw [ReadRequest.base, ReadRequest.parameters, groupPage_text] at hspelled
      simpa using hspelled
  · have hspelled := spelled_self (.memberships ⟨_, hbinding⟩ ⟨100, by decide⟩ none) trivial
    rw [ReadRequest.base, ReadRequest.parameters, groupPage_text] at hspelled
    simpa using hspelled

theorem membershipPaths_allowed {binding : PhotoClient.Binding}
    {replies retried : List (Except Bytes LuaValue)} {path : Bytes}
    (h : path ∈ PhotoClient.membershipPaths binding replies retried) :
    (allowedPath path).isSome = true := by
  have hasked : isOpaqueId binding.fgaPhotoBindingId = true → ∀ {answers : List (Except Bytes LuaValue)},
      path ∈ (PhotoClient.membershipReader binding).asked PhotoClient.maxPages .start answers →
        (allowedPath path).isSome = true := by
    intro hbinding answers hmem
    have hstart : MembershipCursor PhotoClient.MembershipState.start := by
      constructor
      · simp [PhotoClient.MembershipState.start]
      · simp [PhotoClient.MembershipState.start]
    obtain ⟨s, hs, rfl⟩ := PagedReader.Reader.mem_asked MembershipCursor
      (fun _ _ _ _ hstep => membershipStep_cursor hstep) hstart hmem
    exact membershipPath_allowed hbinding hs
  unfold PhotoClient.membershipPaths at h
  split at h
  · cases h
  · next hids =>
      push Not at hids
      have hbinding : isOpaqueId binding.fgaPhotoBindingId = true := by simpa using hids.1
      rcases List.mem_append.mp h with hfirst | hagain
      · exact hasked hbinding hfirst
      · split at hagain
        · exact hasked hbinding hagain
        · cases hagain

/-! ### Groups -/

/-- The cursor of the groups has passed its checks. -/
def GroupCursor (s : GroupClient.State) : Prop :=
  ∀ cursor ∈ s.cursor, isOpaqueId cursor.after = true ∧ 1 ≤ cursor.snapshot ∧
    cursor.snapshot ≤ Binary64.Number.maxSafeInteger

theorem readPage_cursor {value : LuaValue} {after : Option Bytes} {page : GroupClient.Page}
    (h : GroupClient.readPage value after = some page) :
    (1 ≤ page.snapshotRevision ∧ page.snapshotRevision ≤ Binary64.Number.maxSafeInteger) ∧
      ∀ id ∈ page.nextAfterGroupId, isOpaqueId id = true := by
  unfold GroupClient.readPage at h
  split at h
  · next revision refreshed rows hrevision hrefreshed hrows =>
      obtain ⟨number, _, hnumber⟩ := Option.bind_eq_some_iff.mp hrevision
      have hbounds := integer?_bounds hnumber
      split at h
      · split at h
        · obtain rfl := Option.some.inj h
          exact ⟨hbounds, by simp⟩
        · next previous next hprevious hnextField =>
            obtain ⟨hnext, h⟩ := Option.ite_none_right_eq_some.mp h
            obtain rfl := Option.some.inj h
            refine ⟨hbounds, fun id hid => ?_⟩
            obtain rfl := Option.some.inj hid
            exact hnext.1
        · cases h
      · cases h
  · cases h

theorem takePage_cursor {s t : GroupClient.State} {page : GroupClient.Page}
    (hpage : (1 ≤ page.snapshotRevision ∧ page.snapshotRevision ≤ Binary64.Number.maxSafeInteger) ∧
      ∀ id ∈ page.nextAfterGroupId, isOpaqueId id = true)
    (h : GroupClient.takePage s page = .more t) : GroupCursor t := by
  unfold GroupClient.takePage at h
  split at h
  · cases h
  split at h
  · cases h
  split at h
  · cases h
  · next next hnext =>
      split at h
      · cases h
      · cases h
        intro cursor hcursor
        obtain rfl := Option.some.inj hcursor
        exact ⟨hpage.2 next hnext, hpage.1⟩

theorem groupStep_cursor {s t : GroupClient.State} {reply : GroupClient.Reply} (hs : GroupCursor s)
    (h : GroupClient.step s reply = .more t) : GroupCursor t := by
  cases reply with
  | unreachable => cases h
  | malformed => cases h
  | document status retryAfter value =>
      unfold GroupClient.step at h
      dsimp only at h
      split at h
      · split at h
        · cases h
        · next page hpage => exact takePage_cursor (readPage_cursor hpage) h
      · split at h
        · split at h
          · split at h
            · cases h
            · cases h
              exact hs
          · cases h
        · split at h
          · split at h
            · cases h
            · cases h
              simp [GroupCursor]
          · split at h
            · cases h
            · split at h
              · cases h
              · split at h <;> cases h

theorem groupPath_allowed {s : GroupClient.State} (h : GroupCursor s) :
    (allowedPath (GroupClient.path s)).isSome = true := by
  have hquery : ascii "/api/v001/groups?page_size=" =
      groupsPath ++ questionMark :: (pageSizeField ++ [equals]) := by decide +kernel
  have hrevision : ascii "&snapshot_revision=" = ampersand :: (snapshotField ++ [equals]) := by decide +kernel
  have hafter : ascii "&after_group_id=" = ampersand :: (afterGroupField ++ [equals]) := by decide +kernel
  unfold GroupClient.path
  rw [hquery, hrevision, hafter]
  split
  · have hspelled := spelled_self (.groups ⟨100, by decide⟩ none) trivial
    rw [ReadRequest.base, ReadRequest.parameters, groupPage_text] at hspelled
    simpa [GroupClient.pageSize] using hspelled
  · next cursor hcursor =>
      obtain ⟨hid, hbounds⟩ := h cursor hcursor
      have hspelled := spelled_self
        (.groups ⟨100, by decide⟩ (some ⟨⟨cursor.snapshot, hbounds⟩, ⟨cursor.after, hid⟩⟩)) trivial
      rw [ReadRequest.base, ReadRequest.parameters, groupPage_text] at hspelled
      simpa [GroupClient.pageSize] using hspelled

theorem groupPaths_allowed {rounds : Nat} {replies : List GroupClient.Reply} {path : Bytes}
    (h : path ∈ GroupClient.reader.asked rounds .start replies) :
    (allowedPath path).isSome = true := by
  have hstart : GroupCursor GroupClient.State.start := by
    simp [GroupCursor, GroupClient.State.start]
  obtain ⟨s, hs, rfl⟩ :=
    PagedReader.Reader.mem_asked GroupCursor (fun _ _ _ hs hstep => groupStep_cursor hs hstep)
      hstart h
  exact groupPath_allowed hs

/-! ### Histories -/

/-- The last row and the cursor have passed their checks. -/
structure HistoryCursor (t : StatusClient.Traversal) : Prop where
  previous : ∀ row ∈ t.previous, isMicroTimestamp row.1 = true ∧ isOpaqueId row.2 = true
  cursor : ∀ row ∈ t.cursor, isMicroTimestamp row.1 = true ∧ isOpaqueId row.2 = true

theorem validateIntent_fields {v : LuaValue} {binding : Option StatusClient.Binding}
    (h : StatusClient.validateIntent v binding = true) :
    StatusClient.isId "fgaSubmissionIntentId" v = true ∧ StatusClient.isTime "createdAt" v = true := by
  simp only [StatusClient.validateIntent, Bool.and_eq_true, List.all_cons] at h
  exact ⟨h.1.1.1.1.1.1.1.2.1, h.1.1.1.2⟩

theorem addRow_cursor {binding : StatusClient.Binding} {page : StatusClient.Page}
    {t u : StatusClient.Traversal} {v : LuaValue} (ht : HistoryCursor t)
    (h : StatusClient.addRow binding page t v = some u) : HistoryCursor u := by
  unfold StatusClient.addRow at h
  split at h
  · next id group created changed hid hgroup hcreated hchanged =>
      obtain ⟨⟨hvalid, _⟩, h⟩ := Option.ite_none_right_eq_some.mp h
      obtain rfl := Option.some.inj h
      obtain ⟨hidValid, htimeValid⟩ := validateIntent_fields hvalid
      refine ⟨?_, ht.cursor⟩
      intro row hrow
      obtain rfl := Option.some.inj hrow
      simp only [StatusClient.isId, StatusClient.isTime, hid, hcreated, Option.map_some,
        Option.getD_some] at hidValid htimeValid
      exact ⟨htimeValid, hidValid⟩
  · cases h

theorem addRows_cursor {binding : StatusClient.Binding} {page : StatusClient.Page}
    {rows : List LuaValue} {t u : StatusClient.Traversal} (ht : HistoryCursor t)
    (h : StatusClient.addRows binding page t rows = some u) : HistoryCursor u := by
  induction rows generalizing t with
  | nil =>
      obtain rfl := Option.some.inj h
      exact ht
  | cons v rows ih =>
      obtain ⟨next, hrow, hrest⟩ := Option.bind_eq_some_iff.mp h
      exact ih (addRow_cursor ht hrow) hrest

theorem traversalStep_cursor {binding : StatusClient.Binding} {t u : StatusClient.Traversal}
    {reply : StatusClient.Reply} (ht : HistoryCursor t)
    (h : StatusClient.traversalStep binding t reply = .more u) : HistoryCursor u := by
  cases reply with
  | unreachable => cases h
  | refused status => cases h
  | malformed => cases h
  | document value =>
      unfold StatusClient.traversalStep at h
      dsimp only at h
      split at h
      · cases h
      next page hpage =>
      split at h
      · cases h
      split at h
      · cases h
      next later hrows =>
      have hlater : HistoryCursor later := by
        refine addRows_cursor ?_ hrows
        exact ⟨ht.previous, ht.cursor⟩
      split at h
      · split at h <;> cases h
      · split at h
        · cases h
        · next row hrow =>
            cases h
            refine ⟨hlater.previous, ?_⟩
            intro other hother
            obtain rfl := Option.some.inj hother
            unfold StatusClient.nextCursor at hrow
            split at hrow
            · next next created id hnext hprevious =>
                obtain ⟨_, hrow⟩ := Option.ite_none_right_eq_some.mp hrow
                obtain rfl := Option.some.inj hrow
                exact hlater.previous _ hprevious
            · cases hrow

theorem traversalPath_allowed {binding : StatusClient.Binding}
    (hbinding : isOpaqueId binding.fgaPhotoBindingId = true) {t : StatusClient.Traversal}
    (h : HistoryCursor t) : (allowedPath (StatusClient.traversalPath binding t)).isSome = true := by
  have hquery :
      ascii "/api/v001/group-submission-intents?view=history&page_size=100&photo_binding_id=" =
        intentsPath ++ questionMark :: (viewField ++ equals :: ascii "history" ++
          ampersand :: (pageSizeField ++ equals :: ascii "100" ++
            ampersand :: (bindingField ++ [equals]))) := by decide +kernel
  have hcreated : ascii "&before_created_at=" = ampersand :: (beforeCreatedField ++ [equals]) := by
    decide +kernel
  have hintent : ascii "&before_intent_id=" = ampersand :: (beforeIntentField ++ [equals]) := by
    decide +kernel
  unfold StatusClient.traversalPath
  rw [hquery, hcreated, hintent]
  split
  · have hspelled := spelled_self (.history ⟨_, hbinding⟩ none) trivial
    simpa [ReadRequest.base, ReadRequest.parameters, queryText, fieldText] using hspelled
  · next created id hcursor =>
      obtain ⟨htime, hid⟩ := h.cursor _ hcursor
      have hspelled := spelled_self
        (.history ⟨_, hbinding⟩ (some (⟨created, isTimeShape_of_micro htime⟩, ⟨id, hid⟩))) trivial
      simpa [ReadRequest.base, ReadRequest.parameters, queryText, fieldText] using hspelled

theorem historyPaths_allowed {binding : StatusClient.Binding}
    {firstReplies secondReplies : List StatusClient.Reply} {path : Bytes}
    (h : path ∈ StatusClient.historyPaths binding firstReplies secondReplies) :
    (allowedPath path).isSome = true := by
  have hasked : isOpaqueId binding.fgaPhotoBindingId = true → ∀ {answers : List StatusClient.Reply},
      path ∈ (StatusClient.traversal binding).asked StatusClient.maxPages .start answers →
        (allowedPath path).isSome = true := by
    intro hbinding answers hmem
    have hstart : HistoryCursor StatusClient.Traversal.start := by
      constructor
      · simp [StatusClient.Traversal.start]
      · simp [StatusClient.Traversal.start]
    obtain ⟨t, ht, rfl⟩ := PagedReader.Reader.mem_asked HistoryCursor
      (fun _ _ _ ht hstep => traversalStep_cursor ht hstep) hstart hmem
    exact traversalPath_allowed hbinding ht
  unfold StatusClient.historyPaths at h
  split at h
  · cases h
  · next hids =>
      push Not at hids
      have hbinding : isOpaqueId binding.fgaPhotoBindingId = true := by simpa using hids.1
      rcases List.mem_append.mp h with hfirst | hsecond
      · exact hasked hbinding hfirst
      · split at hsecond
        · exact hasked hbinding hsecond
        · cases hsecond

/-! ## The read surface -/

/-- The gate accepts the canonical spellings of the requests and nothing else, and every path
of a client is one of them. -/
theorem read_surface :
    (∀ path, (allowedPath path).isSome = true ↔ ∃ request : ReadRequest, request.Spelled path) ∧
      (∀ pageNumber pageSize path, PhotoClient.discoverPath pageNumber pageSize = some path →
        (allowedPath path).isSome = true) ∧
      (∀ binding replies retried, ∀ path ∈ PhotoClient.membershipPaths binding replies retried,
        (allowedPath path).isSome = true) ∧
      (∀ rounds replies, ∀ path ∈ GroupClient.reader.asked rounds .start replies,
        (allowedPath path).isSome = true) ∧
      (∀ binding firstReplies secondReplies,
        ∀ path ∈ StatusClient.historyPaths binding firstReplies secondReplies,
          (allowedPath path).isSome = true) :=
  ⟨fun _ => allowedPath_iff, fun _ _ _ => discoverPath_allowed,
    fun _ _ _ _ => membershipPaths_allowed, fun _ _ _ => groupPaths_allowed,
    fun _ _ _ _ => historyPaths_allowed⟩

/-- The first page of photos. -/
theorem read_surface_first :
    (allowedPath (ascii "/api/v001/existing-public-photos?page=1&page_size=5")).isSome = true :=
  read_surface.2.1 (.number (.finite false 1)) none _ (by decide +kernel)

/-- The time in the request, where there is one, is a time of the calendar. -/
def ReadRequest.TimeInRange : ReadRequest → Prop
  | .history _ (some (time, _)) => isTimestamp time.val = true
  | _ => True

/-- The ninety-ninth day of the ninety-ninth month. -/
def farTime : Bytes := ascii "2026-99-99T99:99:99Z"

def farFields : List Field :=
  [(viewField, ascii "history"), (pageSizeField, ascii "100"), (bindingField, ascii "b"),
    (beforeCreatedField, percentEncode farTime), (beforeIntentField, ascii "i")]

def farPath : Bytes := intentsPath ++ questionMark :: queryText farFields

/-- The gate accepts a path whose time is no time of the calendar. -/
theorem read_surface_time : (allowedPath farPath).isSome = true ∧
    ¬ ∃ request : ReadRequest, request.TimeInRange ∧ request.Spelled farPath := by
  have hsplit : splitPath farPath = some (intentsPath, queryText farFields) := by decide +kernel
  have hread : readQuery isKeyByte (queryText farFields) = some farFields := by decide +kernel
  have hfields : ∀ request : ReadRequest, request.HasQuery → ∀ {fields : List Field},
      fields.Perm request.parameters →
      farPath = request.base ++ questionMark :: queryText fields →
        request.base = intentsPath ∧ farFields.Perm request.parameters := by
    intro request hquery fields hperm hpath
    obtain ⟨hsplit', hread', _⟩ := spelled_reads hquery hperm
    rw [← hpath, hsplit, Option.some.injEq, Prod.mk.injEq] at hsplit'
    obtain ⟨hbase, htext⟩ := hsplit'
    rw [← htext, hread, Option.some.injEq] at hread'
    exact ⟨hbase.symm, hread' ▸ hperm⟩
  refine ⟨by decide +kernel, ?_⟩
  rintro ⟨request, hrange, hspelled⟩
  cases request with
  | installation => exact absurd hspelled (show farPath ≠ installationPath by decide +kernel)
  | photos page pageSize =>
      obtain ⟨fields, hperm, hpath⟩ := hspelled
      obtain ⟨hbase, _⟩ := hfields (.photos page pageSize) trivial hperm hpath
      exact absurd hbase (show photosPath ≠ intentsPath by decide)
  | groups pageSize cursor =>
      obtain ⟨fields, hperm, hpath⟩ := hspelled
      obtain ⟨hbase, _⟩ := hfields (.groups pageSize cursor) trivial hperm hpath
      exact absurd hbase (show groupsPath ≠ intentsPath by decide)
  | memberships binding pageSize cursor =>
      obtain ⟨fields, hperm, hpath⟩ := hspelled
      obtain ⟨hbase, _⟩ := hfields (.memberships binding pageSize cursor) trivial hperm hpath
      have hstart : bindingsPath <+: intentsPath := by
        rw [← hbase, ReadRequest.base, List.append_assoc]
        exact List.prefix_append _ _
      exact absurd hstart (by decide)
  | history binding before =>
      obtain ⟨fields, hperm, hpath⟩ := hspelled
      obtain ⟨_, hfar⟩ := hfields (.history binding before) trivial hperm hpath
      have hlookup := lookup_perm (show (farFields.map Prod.fst).Nodup by decide) hfar
        beforeCreatedField
      have hcreated : beforeCreatedField ≠ viewField ∧ beforeCreatedField ≠ pageSizeField ∧
          beforeCreatedField ≠ bindingField := by decide
      rcases before with _ | ⟨time, intent⟩
      · simp [farFields, ReadRequest.parameters, lookup_cons_ne, hcreated] at hlookup
      · simp [farFields, ReadRequest.parameters, lookup_cons_ne, hcreated] at hlookup
        have htime : farTime = time.val := percentEncode_injective hlookup
        rw [ReadRequest.TimeInRange, ← htime] at hrange
        exact absurd hrange (by decide)

end FlickrGroupAddr
