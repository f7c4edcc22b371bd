import DirectoryRecords.Proofs.SchemaRuns

/-!
# Schema requests — many of them at once, on one cache

    A request for a schema takes three steps: it looks up the map that is kept
    for its identity and is answered with it; where there is none, it asks its
    directory; and then it offers the map that came and is answered with the
    one that is kept. Between two of its steps any other requests may take
    theirs, so two of them may miss together and fetch different maps. What a
    directory answers when it is asked is left open: it may fail once and not
    the next time, or change its mind.

    One step can only add to the cache, and only the map that its own request
    has fetched (`SchemaStage.get?_step`). So a state is `Sound` for an origin of maps:
    what is kept or waits to be offered has that origin, and whoever was
    answered with a map was answered with the one that is kept. That is
    carried through a turn (`Sound.turn`) and a run (`Sound.after`), and
    agreement follows, since there is one map to be kept for an identity
    (`requests_agree`). A request that nobody interrupts answers and keeps what
    a session does (`after_alone`). For an identity that has no request nothing
    changes, whatever the requests for others do (`Lacks.get?_after`).
-/

namespace DirectoryRecords

/-- What is kept stays, whatever else is offered. -/
theorem SchemaCache.get?_keep_of_some {cache : SchemaCache} {identity : Text} {schema : SchemaMap}
    (h : cache.get? identity = some schema) (other : Text) (offered : SchemaMap) :
    (cache.keep other offered).get? identity = some schema := by
  by_cases hother : identity = other
  · rw [← hother, get?_keep_self, h]
    rfl
  · rw [get?_keep_of_ne cache offered hother, h]

/-- How far a request for a schema has come. -/
inductive SchemaStage where
  | begun
  | missed
  | fetched (schema : SchemaMap)
  | answered (outcome : Except Error SchemaMap)
  deriving DecidableEq

/-! ## One step -/

namespace SchemaStage

variable {identity other : Text} {cache : SchemaCache} {reply : Except Error SchemaMap}
  {stage : SchemaStage} {schema : SchemaMap}

/-- The next stage of a request for the schema of an identity, and the cache after the step, if
    the directory answers the reply when it is asked. -/
def step (identity : Text) (cache : SchemaCache) (reply : Except Error SchemaMap) :
    SchemaStage → SchemaStage × SchemaCache
  | begun =>
    match cache.get? identity with
    | some schema => (answered (.ok schema), cache)
    | none => (missed, cache)
  | missed =>
    match reply with
    | .ok schema => (fetched schema, cache)
    | .error e => (answered (.error e), cache)
  | fetched schema =>
    let kept := cache.keep identity schema
    (answered (.ok ((kept.get? identity).getD schema)), kept)
  | answered outcome => (answered outcome, cache)

/-- Only a request that has fetched a map may change the cache: it offers the map. -/
theorem step_cache (identity : Text) (cache : SchemaCache) (reply : Except Error SchemaMap)
    (stage : SchemaStage) :
    (∃ schema, stage = fetched schema ∧
      (stage.step identity cache reply).2 = cache.keep identity schema) ∨
    (stage.step identity cache reply).2 = cache := by
  cases stage with
  | begun =>
      rw [step]
      cases cache.get? identity with
      | some schema => exact .inr rfl
      | none => exact .inr rfl
  | missed =>
      cases reply with
      | ok schema => exact .inr rfl
      | error e => exact .inr rfl
  | fetched schema => exact .inl ⟨schema, rfl, rfl⟩
  | answered outcome => exact .inr rfl

/-- A step leaves every map that is kept. -/
theorem get?_step_of_some (identity : Text) (reply : Except Error SchemaMap) (stage : SchemaStage)
    (h : cache.get? other = some schema) :
    (stage.step identity cache reply).2.get? other = some schema := by
  rcases step_cache identity cache reply stage with ⟨fetched, _, hcache⟩ | hcache
  · rw [hcache]
    exact SchemaCache.get?_keep_of_some h identity fetched
  · rw [hcache, h]

/-- What is kept after a step was kept before, or the request had fetched it. -/
theorem get?_step (h : (stage.step identity cache reply).2.get? other = some schema) :
    cache.get? other = some schema ∨ (other = identity ∧ stage = fetched schema) := by
  rcases step_cache identity cache reply stage with ⟨map, hstage, hcache⟩ | hcache
  · rw [hcache] at h
    by_cases hother : other = identity
    · rw [hother, SchemaCache.get?_keep_self] at h
      cases hkept : cache.get? identity with
      | some kept =>
          rw [hkept] at h
          rw [hother, hkept]
          exact .inl h
      | none =>
          rw [hkept] at h
          obtain rfl : map = schema := Option.some.inj h
          exact .inr ⟨hother, hstage⟩
    · rw [SchemaCache.get?_keep_of_ne cache map hother] at h
      exact .inl h
  · rw [hcache] at h
    exact .inl h

/-- What is kept for other identities is as it was before the step. -/
theorem get?_step_of_ne (h : other ≠ identity) (cache : SchemaCache)
    (reply : Except Error SchemaMap) (stage : SchemaStage) :
    (stage.step identity cache reply).2.get? other = cache.get? other := by
  rcases step_cache identity cache reply stage with ⟨fetched, _, hcache⟩ | hcache
  · rw [hcache, SchemaCache.get?_keep_of_ne cache fetched h]
  · rw [hcache]

/-- A request has fetched a map after it had missed and the directory answered the map. -/
theorem of_step_eq_fetched (h : (stage.step identity cache reply).1 = fetched schema) :
    stage = missed ∧ reply = .ok schema := by
  cases stage with
  | begun =>
      rw [step] at h
      cases hkept : cache.get? identity with
      | some kept =>
          rw [hkept] at h
          exact nomatch h
      | none =>
          rw [hkept] at h
          exact nomatch h
  | missed =>
      cases reply with
      | ok map => exact ⟨rfl, congrArg Except.ok (fetched.inj h)⟩
      | error e => exact nomatch h
  | fetched map => exact nomatch h
  | answered outcome => exact nomatch h

/-- A request is answered with the map that is kept, or it was answered with the map before. -/
theorem of_step_eq_answered (h : (stage.step identity cache reply).1 = answered (.ok schema)) :
    (stage.step identity cache reply).2.get? identity = some schema ∨
      stage = answered (.ok schema) := by
  cases stage with
  | begun =>
      rw [step] at h ⊢
      cases hkept : cache.get? identity with
      | some kept =>
          rw [hkept] at h
          obtain rfl : kept = schema := Except.ok.inj (answered.inj h)
          exact .inl hkept
      | none =>
          rw [hkept] at h
          exact nomatch h
  | missed =>
      cases reply with
      | ok map => exact nomatch h
      | error e => exact nomatch answered.inj h
  | fetched map =>
      have hanswer : ((cache.keep identity map).get? identity).getD map = schema :=
        Except.ok.inj (answered.inj h)
      rw [SchemaCache.get?_keep_self] at hanswer
      refine .inl ?_
      rw [← hanswer]
      exact SchemaCache.get?_keep_self cache identity map
  | answered outcome => exact .inr h

end SchemaStage

/-! ## Runs -/

/-- A request for the schema of an identity. -/
structure SchemaRequest where
  identity : Text
  stage : SchemaStage
  deriving DecidableEq

/-- A request that has not taken a step. -/
def SchemaRequest.ofIdentity (identity : Text) : SchemaRequest := ⟨identity, .begun⟩

/-- A cache and the requests that share it. -/
structure SchemaRequests where
  cache : SchemaCache
  requests : List SchemaRequest

/-- A step of one request, with what its directory answers if it is asked now. -/
structure SchemaTurn where
  request : Nat
  reply : Except Error SchemaMap

namespace SchemaRequests

variable {state : SchemaRequests} {origin : Text → SchemaMap → Prop}

/-- Requests for some identities, none of which has taken a step. -/
def ofIdentities (cache : SchemaCache) (identities : List Text) : SchemaRequests :=
  ⟨cache, identities.map .ofIdentity⟩

/-- The state after a turn; the turn of a request that is not there changes nothing. -/
def turn (state : SchemaRequests) (turn : SchemaTurn) : SchemaRequests :=
  match state.requests[turn.request]? with
  | some request =>
    let (stage, cache) := request.stage.step request.identity state.cache turn.reply
    ⟨cache, state.requests.set turn.request { request with stage }⟩
  | none => state

/-- The state after some turns, one after the other. -/
def after (state : SchemaRequests) (turns : List SchemaTurn) : SchemaRequests :=
  turns.foldl turn state

/-- The map that a turn fetches, with the identity of the request that fetches it. -/
def fetched? (state : SchemaRequests) (turn : SchemaTurn) : Option (Text × SchemaMap) :=
  match state.requests[turn.request]?, turn.reply with
  | some ⟨identity, .missed⟩, .ok schema => some (identity, schema)
  | _, _ => none

/-- The maps that are fetched in a run, with the identities of the requests that fetch them. -/
def fetches (state : SchemaRequests) : List SchemaTurn → List (Text × SchemaMap)
  | [] => []
  | turn :: rest => (state.fetched? turn).toList ++ (state.turn turn).fetches rest

/-! ### What is kept -/

/-- A map that is kept stays through a turn. -/
theorem get?_turn_of_some (turn : SchemaTurn) {identity : Text} {schema : SchemaMap}
    (h : state.cache.get? identity = some schema) :
    (state.turn turn).cache.get? identity = some schema := by
  rw [SchemaRequests.turn]
  cases state.requests[turn.request]? with
  | none => exact h
  | some request => exact request.stage.get?_step_of_some request.identity turn.reply h

/-- A map that is kept stays through a run. -/
theorem get?_after_of_some (turns : List SchemaTurn) {identity : Text} {schema : SchemaMap}
    (h : state.cache.get? identity = some schema) :
    (state.after turns).cache.get? identity = some schema := by
  induction turns generalizing state with
  | nil => exact h
  | cons turn rest ih => exact ih (get?_turn_of_some turn h)

/-! ### Identities without a request -/

/-- None of the requests is for an identity. -/
def Lacks (state : SchemaRequests) (identity : Text) : Prop :=
  ∀ request ∈ state.requests, request.identity ≠ identity

theorem lacks_ofIdentities {identities : List Text} {identity : Text} (h : identity ∉ identities)
    (cache : SchemaCache) : (ofIdentities cache identities).Lacks identity := by
  intro request hmem
  obtain ⟨other, hother, rfl⟩ := List.mem_map.mp hmem
  rintro rfl
  exact h hother

/-- A turn of a request leaves what is kept for an identity that has none. -/
theorem Lacks.turn {identity : Text} (h : state.Lacks identity) (turn : SchemaTurn) :
    (state.turn turn).Lacks identity ∧
      (state.turn turn).cache.get? identity = state.cache.get? identity := by
  rw [SchemaRequests.turn]
  cases hrequest : state.requests[turn.request]? with
  | none => exact ⟨h, rfl⟩
  | some request =>
      have hne : request.identity ≠ identity := h request (List.mem_of_getElem? hrequest)
      refine ⟨fun other hother => ?_, request.stage.get?_step_of_ne hne.symm state.cache turn.reply⟩
      rcases List.mem_or_eq_of_mem_set hother with hother | rfl
      · exact h other hother
      · exact hne

/-- A run leaves what is kept for an identity that has no request. -/
theorem Lacks.get?_after {identity : Text} (h : state.Lacks identity) (turns : List SchemaTurn) :
    (state.after turns).cache.get? identity = state.cache.get? identity := by
  induction turns generalizing state with
  | nil => rfl
  | cons turn rest ih =>
      obtain ⟨hlacks, hcache⟩ := h.turn turn
      exact (ih hlacks).trans hcache

/-- A turn takes its request to the next stage. -/
theorem turn_of_request {place : Nat} {identity : Text} {stage : SchemaStage}
    (h : state.requests[place]? = some ⟨identity, stage⟩) (reply : Except Error SchemaMap) :
    (state.turn ⟨place, reply⟩).cache = (stage.step identity state.cache reply).2 ∧
      (state.turn ⟨place, reply⟩).requests[place]?
        = some ⟨identity, (stage.step identity state.cache reply).1⟩ := by
  obtain ⟨hlt, -⟩ := List.getElem?_eq_some_iff.mp h
  rw [SchemaRequests.turn, h]
  exact ⟨rfl, List.getElem?_set_self hlt⟩

/-- Where nothing is kept yet, a request that nobody interrupts has the map kept that its directory
    answers. -/
theorem exists_kept_of_mem {identities : List Text} {identity : Text} (h : identity ∈ identities)
    (schema : SchemaMap) :
    ∃ turns, ((ofIdentities ∅ identities).after turns).cache.get? identity = some schema := by
  obtain ⟨place, hplace⟩ := List.mem_iff_getElem?.mp h
  let next : SchemaTurn := ⟨place, .ok schema⟩
  let begun := ofIdentities ∅ identities
  have hbegun : begun.requests[place]? = some ⟨identity, .begun⟩ := by
    show (identities.map SchemaRequest.ofIdentity)[place]? = _
    rw [List.getElem?_map, hplace]
    rfl
  obtain ⟨hempty, hmissed⟩ := turn_of_request hbegun next.reply
  obtain ⟨hstill, hfetched⟩ := turn_of_request hmissed next.reply
  obtain ⟨hkept, -⟩ := turn_of_request hfetched next.reply
  refine ⟨[next, next, next], ?_⟩
  show (((begun.turn next).turn next).turn next).cache.get? identity = some schema
  rw [hkept, hstill, hempty]
  exact SchemaCache.get?_keep_self ∅ identity schema

/-! ### Where maps come from -/

/-- The maps that are kept or wait to be offered have an origin, and every request that was
    answered with a map was answered with the one that is kept. -/
structure Sound (origin : Text → SchemaMap → Prop) (state : SchemaRequests) : Prop where
  kept : ∀ identity schema, state.cache.get? identity = some schema → origin identity schema
  fetched : ∀ request ∈ state.requests, ∀ schema, request.stage = .fetched schema →
    origin request.identity schema
  answered : ∀ request ∈ state.requests, ∀ schema, request.stage = .answered (.ok schema) →
    state.cache.get? request.identity = some schema

/-- A turn keeps the origin of maps, if what it fetches has it. -/
theorem Sound.turn (h : Sound origin state) (turn : SchemaTurn)
    (hfetch : ∀ fetch ∈ state.fetched? turn, origin fetch.1 fetch.2) :
    Sound origin (state.turn turn) := by
  obtain ⟨hkept, hfetched, hanswered⟩ := h
  cases hrequest : state.requests[turn.request]? with
  | none =>
      have hidle : state.turn turn = state := by
        rw [SchemaRequests.turn, hrequest]
      rw [hidle]
      exact ⟨hkept, hfetched, hanswered⟩
  | some request =>
      have hmem : request ∈ state.requests := List.mem_of_getElem? hrequest
      have hturn : state.turn turn =
          let (stage, cache) := request.stage.step request.identity state.cache turn.reply
          ⟨cache, state.requests.set turn.request { request with stage }⟩ := by
        rw [SchemaRequests.turn, hrequest]
      rw [hturn]
      refine ⟨?_, ?_, ?_⟩
      · intro identity schema hget
        rcases SchemaStage.get?_step hget with hget | ⟨rfl, hstage⟩
        · exact hkept identity schema hget
        · exact hfetched request hmem schema hstage
      · intro other hother schema hstage
        rcases List.mem_or_eq_of_mem_set hother with hother | rfl
        · exact hfetched other hother schema hstage
        · obtain ⟨hmissed, hreply⟩ := SchemaStage.of_step_eq_fetched hstage
          refine hfetch (request.identity, schema) ?_
          rw [fetched?, hrequest, hreply]
          obtain ⟨identity, stage⟩ := request
          obtain rfl : stage = .missed := hmissed
          rfl
      · intro other hother schema hstage
        rcases List.mem_or_eq_of_mem_set hother with hother | rfl
        · exact SchemaStage.get?_step_of_some _ _ _ (hanswered other hother schema hstage)
        · rcases SchemaStage.of_step_eq_answered hstage with hget | hbefore
          · exact hget
          · exact SchemaStage.get?_step_of_some _ _ _ (hanswered request hmem schema hbefore)

/-- A run keeps the origin of maps, if what it fetches has it. -/
theorem Sound.after (h : Sound origin state) (turns : List SchemaTurn)
    (hfetches : ∀ fetch ∈ state.fetches turns, origin fetch.1 fetch.2) :
    Sound origin (state.after turns) := by
  induction turns generalizing state with
  | nil => exact h
  | cons turn rest ih =>
      refine ih (h.turn turn fun fetch hfetch => ?_) fun fetch hfetch => ?_
      · exact hfetches fetch (List.mem_append_left _ (Option.mem_toList.mpr hfetch))
      · exact hfetches fetch (List.mem_append_right _ hfetch)

/-- Before any step the maps that are kept have every origin that those of the cache have. -/
theorem sound_ofIdentities {cache : SchemaCache} (identities : List Text)
    (h : ∀ identity schema, cache.get? identity = some schema → origin identity schema) :
    Sound origin (ofIdentities cache identities) := by
  have hbegun : ∀ request ∈ identities.map SchemaRequest.ofIdentity, request.stage = .begun := by
    intro request hmem
    obtain ⟨identity, _, rfl⟩ := List.mem_map.mp hmem
    rfl
  refine ⟨h, fun request hmem schema hstage => ?_, fun request hmem schema hstage => ?_⟩
  · rw [hbegun request hmem] at hstage
    exact nomatch hstage
  · rw [hbegun request hmem] at hstage
    exact nomatch hstage

/-! ### Agreement -/

/-- The turn of a request that is alone is its step. -/
theorem turn_alone (cache : SchemaCache) (identity : Text) (stage : SchemaStage)
    (reply : Except Error SchemaMap) :
    turn ⟨cache, [⟨identity, stage⟩]⟩ ⟨0, reply⟩
      = ⟨(stage.step identity cache reply).2, [⟨identity, (stage.step identity cache reply).1⟩]⟩ :=
  rfl

/-- A request that nobody interrupts is answered in three turns with what a session answers, and
    leaves the cache that the session leaves. -/
theorem after_alone (session : Session) :
    (ofIdentities session.cache [session.directory.identity]).after
        (List.replicate 3 ⟨0, session.directory.schemaAnswer⟩)
      = ⟨(Session.schema session).2.cache,
          [⟨session.directory.identity, .answered (Session.schema session).1⟩]⟩ := by
  let next : SchemaTurn := ⟨0, session.directory.schemaAnswer⟩
  show ((turn ⟨session.cache, [⟨session.directory.identity, .begun⟩]⟩ next).turn next).turn next = _
  rw [turn_alone, turn_alone, turn_alone, Session.schema_run, Session.schemaAnswer,
    Session.afterSchema]
  cases hcached : session.cachedSchema? with
  | some schema =>
      have hstep : SchemaStage.begun.step session.directory.identity session.cache
          session.directory.schemaAnswer = (.answered (.ok schema), session.cache) := by
        have hkept : session.cache.get? session.directory.identity = some schema := hcached
        rw [SchemaStage.step, hkept]
      rw [hstep]
      rfl
  | none =>
      have hkept : session.cache.get? session.directory.identity = none := hcached
      have hstep : SchemaStage.begun.step session.directory.identity session.cache
          session.directory.schemaAnswer = (.missed, session.cache) := by
        rw [SchemaStage.step, hkept]
      rw [hstep, Session.fetched]
      cases session.directory.schemaAnswer with
      | error e => rfl
      | ok schema =>
          let kept := session.cache.keep session.directory.identity schema
          show (⟨kept, [⟨session.directory.identity,
            .answered (.ok ((kept.get? session.directory.identity).getD schema))⟩]⟩ :
            SchemaRequests) = _
          rw [SchemaCache.get?_keep_self, hkept]
          rfl

/-- **Requests agree, however they are interleaved.** After any turns of any requests all those of
    one identity that were answered with a map were answered with the same one. It was kept from the
    start, or there was none and one of these requests has fetched it. A map that is kept stays
    whatever turns come after, and a fetch that fails leaves the cache as it is and fails its own
    request. -/
theorem requests_agree (cache : SchemaCache) (identities : List Text) (turns : List SchemaTurn) :
    let start := ofIdentities cache identities
    let state := start.after turns
    (∀ first ∈ state.requests, ∀ second ∈ state.requests, ∀ one other,
      first.identity = second.identity → first.stage = .answered (.ok one) →
      second.stage = .answered (.ok other) → one = other) ∧
    (∀ request ∈ state.requests, ∀ schema, request.stage = .answered (.ok schema) →
      cache.get? request.identity = some schema ∨
        (cache.get? request.identity = none ∧
          (request.identity, schema) ∈ start.fetches turns)) ∧
    (∀ identity schema, state.cache.get? identity = some schema →
      ∀ later, (start.after (turns ++ later)).cache.get? identity = some schema) ∧
    (∀ turn request e, state.requests[turn.request]? = some request → request.stage = .missed →
      turn.reply = .error e →
      (state.turn turn).cache = state.cache ∧
        (state.turn turn).requests
          = state.requests.set turn.request { request with stage := .answered (.error e) }) := by
  intro start state
  have hsound : Sound (fun identity schema => cache.get? identity = some schema ∨
      (identity, schema) ∈ start.fetches turns) state :=
    (sound_ofIdentities identities fun _ _ => .inl).after turns fun _ => .inr
  refine ⟨?_, ?_, ?_, ?_⟩
  · intro first hfirst second hsecond one other hidentity hone hother
    have hkept := hsound.answered first hfirst one hone
    rw [hidentity, hsound.answered second hsecond other hother] at hkept
    exact (Option.some.inj hkept).symm
  · intro request hmem schema hanswer
    have hkept := hsound.answered request hmem schema hanswer
    cases hbefore : cache.get? request.identity with
    | some held =>
        -- What was kept from the start is kept now, and there is only one map to be kept.
        have hheld : state.cache.get? request.identity = some held :=
          get?_after_of_some turns hbefore
        exact .inl (hheld.symm.trans hkept)
    | none =>
        rcases hsound.kept request.identity schema hkept with hstart | hfetch
        · rw [hbefore] at hstart
          exact nomatch hstart
        · exact .inr ⟨rfl, hfetch⟩
  · intro identity schema hkept later
    show (List.foldl turn start (turns ++ later)).cache.get? identity = some schema
    rw [List.foldl_append]
    exact get?_after_of_some later hkept
  · intro turn request e hrequest hmissed hreply
    obtain ⟨identity, stage⟩ := request
    obtain rfl : stage = .missed := hmissed
    rw [SchemaRequests.turn, hrequest, hreply]
    exact ⟨rfl, rfl⟩

/-- Two requests miss together and fetch different maps: both are answered with the one that was
    offered first. A third one, whose fetch fails, is not answered with a map. -/
theorem requests_agree_race :
    let people : Text := "memory://people"
    let first : SchemaMap := .ofList [("uid", "1.3.6.1.4.1.1466.115.121.1.15")]
    let second : SchemaMap := .ofList [("mail", "1.3.6.1.4.1.1466.115.121.1.26")]
    let failure : Except Error SchemaMap :=
      .error (.schemaFetchFailed "subschema entry not readable")
    let start := ofIdentities ∅ [people, people, people]
    let turns : List SchemaTurn := [⟨0, .ok first⟩, ⟨1, .ok second⟩, ⟨2, failure⟩,
      ⟨0, .ok first⟩, ⟨2, failure⟩, ⟨1, .ok second⟩, ⟨1, .ok second⟩, ⟨0, .ok first⟩]
    start.fetches turns = [(people, first), (people, second)] ∧
      (start.after turns).requests = [⟨people, .answered (.ok second)⟩,
        ⟨people, .answered (.ok second)⟩, ⟨people, .answered failure⟩] ∧
      (people, second) ∈ start.fetches turns := by
  intro people first second failure start turns
  have hrequests : (start.after turns).requests = [⟨people, .answered (.ok second)⟩,
      ⟨people, .answered (.ok second)⟩, ⟨people, .answered failure⟩] := by decide +kernel
  obtain ⟨_, hfetched, _, _⟩ := requests_agree ∅ [people, people, people] turns
  have hmem : (⟨people, .answered (.ok second)⟩ : SchemaRequest) ∈ (start.after turns).requests := by
    rw [hrequests]
    exact List.mem_cons_self
  refine ⟨by decide +kernel, hrequests, ?_⟩
  rcases hfetched _ hmem second rfl with hstart | ⟨_, hfetch⟩
  · exact nomatch hstart
  · exact hfetch

end SchemaRequests

end DirectoryRecords
