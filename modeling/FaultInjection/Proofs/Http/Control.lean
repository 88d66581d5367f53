import FaultInjection.Http.Control
import FaultInjection.Proofs.Registry.Answers

/-!
# What a control request can do

A control request is answered without a change, or it makes one of three changes: it sets a term under
a name, assigns a bulk text, or disables a name (`control_cases`). Which of them it asks for is settled
by its method, its path and its body (`Requested`). A path with a single segment names a failpoint in
some spelling (`Spells`); `control_of_call` is the way from such a request to its answer.
-/

namespace FaultInjection.Http

open Text

variable {limit : Option Nat} {r : Registry} {d : Draws} {q : Request} {t : Trail}

/-! ## Paths -/

/-- The segment denotes the name, whatever is written in percent signs. -/
structure Spells (segment : List Char) (n : String) : Prop where
  whole : '/' ∉ segment
  denotes : decodeSegment? segment = some n

theorem segments_of_whole {segment : List Char} (h : '/' ∉ segment) :
    pathSegments? ('/' :: segment) = some [segment] := congrArg some (List.splitOn_eq_singleton h)

theorem ofPath?_of_segment {segment : List Char} (hw : '/' ∉ segment) (hn : segment ≠ []) :
    ControlRoute.ofPath? ('/' :: segment) =
      if segment = Name.reservedWord.toList then some .bulk else some (.single segment) := by
  rw [ControlRoute.ofPath?, segments_of_whole hw]
  cases segment with
  | nil => exact absurd rfl hn
  | cons c segment => rfl

theorem ofPath?_of_count {segment : List Char} (hw : '/' ∉ segment) :
    ControlRoute.ofPath? ('/' :: (segment ++ '/' :: "count".toList)) = some (.count segment) := by
  have hword : "count".toList.splitOn '/' = ["count".toList] := List.splitOn_eq_singleton (by decide)
  have hcut : pathSegments? ('/' :: (segment ++ '/' :: "count".toList)) = some [segment, "count".toList] := by
    rw [pathSegments?, List.splitOn_append_cons_self_of_not_mem hw, hword]
  rw [ControlRoute.ofPath?, hcut]
  -- The first segment is looked at for the listing before the second one is.
  cases segment <;> exact if_pos rfl

theorem exists_of_pathSegments? {path : List Char} {segments : List (List Char)}
    (h : pathSegments? path = some segments) : path = '/' :: ['/'].intercalate segments := by
  unfold pathSegments? at h
  split at h
  · obtain rfl := Option.some.inj h
    rw [List.intercalate_splitOn]
  · cases h

/-- The bulk route has the reserved word for its path. -/
theorem path_of_bulk {path : List Char} (h : ControlRoute.ofPath? path = some .bulk) :
    path = '/' :: Name.reservedWord.toList := by
  unfold ControlRoute.ofPath? at h
  split at h
  · cases h
  · next segment _ hsegments =>
    split at h
    · next hword =>
      have hpath := exists_of_pathSegments? hsegments
      simpa [hword, List.intercalate] using hpath
    · cases h
  · split at h <;> cases h
  · cases h

theorem decodeSegment?_reserved : decodeSegment? Name.reservedWord.toList = some Name.reservedWord := by
  decide +kernel

/-- What spells a name is neither empty nor the reserved word. -/
theorem Spells.ne {segment : List Char} {name : Name} (h : Spells segment name.text) :
    segment ≠ [] ∧ segment ≠ Name.reservedWord.toList := by
  have hfaults := name.faults_eq_nil
  constructor
  · rintro rfl
    have hempty : name.text = "" := Option.some.inj (h.denotes.symm.trans (by decide +kernel))
    rw [hempty] at hfaults
    exact absurd hfaults (by decide)
  · rintro rfl
    have hword := Option.some.inj (h.denotes.symm.trans decodeSegment?_reserved)
    rw [hword] at hfaults
    exact absurd hfaults (by decide)

/-! ## Sizes -/

/-- The length that a request declares, if any, is within the configured limit. -/
structure Request.Admitted (q : Request) (limit : Option Nat) : Prop where
  declared : ∀ most ∈ limit, ∀ length ∈ q.declaredLength, length ≤ most

/-- The body is within the configured limit, and within the one that always holds. -/
structure Request.Fits (q : Request) (limit : Option Nat) : Prop extends Request.Admitted q limit where
  configured : ∀ most ∈ limit, q.body.length ≤ most
  always : q.body.length ≤ defaultBodyLimit

theorem exceedsDeclared_eq_false_iff : exceedsDeclared limit q = false ↔ q.Admitted limit := by
  unfold exceedsDeclared
  split
  · next most length hlength =>
    rw [decide_eq_false_iff_not, Nat.not_lt]
    constructor
    · intro hle
      refine ⟨fun m hm n hn => ?_⟩
      obtain rfl := Option.some.inj hm
      obtain rfl := Option.some.inj (hlength.symm.trans hn)
      exact hle
    · exact fun h => h.declared most rfl length hlength
  · next hnone =>
    simp only [true_iff]
    exact ⟨fun most hm length hn => (hnone most length hm hn).elim⟩

theorem Request.Fits.exceedsRead (h : q.Fits limit) : exceedsRead limit q = false := by
  have hmost : q.body.length ≤ limit.getD defaultBodyLimit := by
    cases hl : limit with
    | none => exact h.always
    | some most => exact h.configured most hl
  exact decide_eq_false (Nat.not_lt.2 (Nat.le_min.2 ⟨hmost, h.always⟩))

/-- A request that neither declares too much nor carries too much fits. -/
theorem Request.fits_of_not_exceeds (hdeclared : exceedsDeclared limit q = false)
    (hread : Http.exceedsRead limit q = false) : q.Fits limit := by
  have hle := Nat.not_lt.1 (of_decide_eq_false hread)
  refine ⟨exceedsDeclared_eq_false_iff.1 hdeclared, fun most hmost => ?_, ?_⟩
  · obtain rfl := Option.mem_def.1 hmost
    exact hle.trans (Nat.min_le_left _ _)
  · exact hle.trans (Nat.min_le_right _ _)

/-! ## From a request to its answer -/

/-- No refusal has the status of a change. -/
theorem status_ne_noContent (e : RequestError) : e.status ≠ 204 := by
  unfold RequestError.status
  split
  · decide
  · decide
  · split <;> decide
  · split <;> decide
  · decide
  · decide
  · decide

/-- What every response goes through at the end: it names the methods of a route that was missed, and
loses its body on HEAD. -/
def finished (q : Request) (resp : Response) : Response :=
  (match missedMethods? q with
    | none => resp
    | some methods => resp.allowing methods).forMethod q.method

theorem status_finished (q : Request) (resp : Response) : (finished q resp).status = resp.status := by
  unfold finished Response.forMethod
  cases missedMethods? q <;> split <;> rfl

theorem mapResponse_mapResponse (x : Exchange) (f g : Response → Response) :
    (x.mapResponse f).mapResponse g = x.mapResponse fun resp => g (f resp) := by
  obtain ⟨answer, t⟩ := x
  cases answer <;> rfl

theorem trail_mapResponse (x : Exchange) (f : Response → Response) : (x.mapResponse f).trail = x.trail := by
  obtain ⟨answer, t⟩ := x
  cases answer <;> rfl

theorem control_eq (limit : Option Nat) (r : Registry) (d : Draws) (q : Request) :
    control limit r d q = (if exceedsDeclared limit q then .reply (Trail.start r d) declaredTooLarge
      else (admitted limit (Trail.start r d) q).mapResponse (·.identified q)).mapResponse (finished q) := by
  unfold control finished
  cases missedMethods? q with
  | none => rfl
  | some methods => exact mapResponse_mapResponse _ _ _

/-- A request whose length is admitted is turned down for its path or its method, or it makes a call. -/
theorem admitted_cases (limit : Option Nat) (t : Trail) (q : Request) :
    (∃ resp, resp.status ≠ 204 ∧ admitted limit t q = .reply t resp) ∨
      ∃ route call, ControlRoute.ofPath? q.target.path = some route ∧ q.method ∈ route.methods ∧
        route.call? q.method = some call ∧ admitted limit t q = call.run t limit q := by
  unfold admitted
  cases ControlRoute.ofPath? q.target.path with
  | none => exact .inl ⟨_, by decide, rfl⟩
  | some route =>
    dsimp only
    by_cases hmethod : q.method ∈ route.methods
    · rw [if_pos hmethod]
      cases hcall : route.call? q.method with
      | none => exact .inl ⟨badSegment "name", by decide, rfl⟩
      | some call => exact .inr ⟨route, call, rfl, hmethod, hcall, rfl⟩
    · rw [if_neg hmethod]
      exact .inl ⟨_, by decide, rfl⟩

theorem finished_of_known {route : ControlRoute} (hroute : ControlRoute.ofPath? q.target.path = some route)
    (hmethod : q.method ∈ route.methods) (resp : Response) : finished q resp = resp.forMethod q.method := by
  have hmissed : missedMethods? q = none := by
    rw [missedMethods?, hroute]
    exact if_pos hmethod
  rw [finished, hmissed]

/-- The answer to an admitted request on a route that has its method. -/
theorem control_of_call {route : ControlRoute} {call : ControlCall} (h : q.Admitted limit)
    (hroute : ControlRoute.ofPath? q.target.path = some route) (hmethod : q.method ∈ route.methods)
    (hcall : route.call? q.method = some call) : control limit r d q =
      (call.run (Trail.start r d) limit q).mapResponse fun resp => (resp.identified q).forMethod q.method := by
  have hadmitted : admitted limit (Trail.start r d) q = call.run (Trail.start r d) limit q := by
    rw [admitted, hroute]
    dsimp only
    rw [if_pos hmethod, hcall]
  rw [control_eq, exceedsDeclared_eq_false_iff.2 h, if_neg Bool.false_ne_true, hadmitted,
    mapResponse_mapResponse]
  simp only [finished_of_known hroute hmethod]

/-- The changes that a request can ask for, with the refusal that reports a failure. -/
inductive Requested (r : Registry) (q : Request) : Change → (RegistryError → RequestError) → Prop where
  | set {name spec : String} : q.method = "PUT" → Utf8.decode? q.body = some spec →
      Requested r q (r.set name spec) .set
  | assign {text : String} : q.method = "PUT" → q.target.path = '/' :: Name.reservedWord.toList →
      Utf8.decode? q.body = some text → Requested r q (r.assign text) .setMany
  | deactivate {name : String} : q.method = "DELETE" →
      Requested r q (r.deactivate name) .deactivate

/-- The calls that each method can make. -/
theorem call?_cases {method : String} {route : ControlRoute} {call : ControlCall}
    (hmethod : method ∈ route.methods) (hcall : route.call? method = some call) :
    call = .list ∨ (∃ name, call = .get name) ∨ (∃ name, call = .count name) ∨
      (method = "PUT" ∧ ∃ name, call = .set name) ∨
      (method = "PUT" ∧ route = .bulk ∧ call = .setMany) ∨
      (method = "DELETE" ∧ ∃ name, call = .deactivate name) := by
  cases route with
  | list =>
    obtain rfl := Option.some.inj hcall
    exact .inl rfl
  | bulk =>
    obtain rfl := Option.some.inj hcall
    obtain rfl := List.mem_singleton.1 hmethod
    simp
  | single segment =>
    obtain ⟨name, -, rfl⟩ := Option.map_eq_some_iff.1 hcall
    unfold ControlCall.onName
    split
    · next h => simp [h]
    · split
      · next h => simp [h]
      · simp
  | count segment =>
    obtain ⟨name, -, rfl⟩ := Option.map_eq_some_iff.1 hcall
    simp

/-- A call that only asks is answered, and not with the status of a change. -/
theorem run_of_question {call : ControlCall}
    (h : call = .list ∨ (∃ name, call = .get name) ∨ ∃ name, call = .count name) :
    ∃ resp, resp.status ≠ 204 ∧ call.run t limit q = .reply t resp := by
  have htext : ∀ body, (Response.text 200 body).status ≠ 204 := fun _ => by simp [Response.text]
  rcases h with rfl | ⟨name, rfl⟩ | ⟨name, rfl⟩
  · exact ⟨_, htext _, rfl⟩
  · rw [ControlCall.run]
    split
    · next e _ => exact ⟨_, status_ne_noContent (.get e), rfl⟩
    · exact ⟨_, htext _, rfl⟩
  · rw [ControlCall.run]
    split
    · next e _ => exact ⟨_, status_ne_noContent (.count e), rfl⟩
    · exact ⟨_, htext _, rfl⟩

theorem putTerm_cases (t : Trail) (name : String) (body : List UInt8) :
    (∃ resp, resp.status ≠ 204 ∧ putTerm t name body = .reply t resp) ∨
      ∃ spec, Utf8.decode? body = some spec ∧
        putTerm t name body = changed t .set (t.registry.set name spec) := by
  unfold putTerm
  split
  · next e _ => exact .inl ⟨_, status_ne_noContent (.set e), rfl⟩
  · cases hbody : Utf8.decode? body with
    | none => exact .inl ⟨_, status_ne_noContent (.set notText), rfl⟩
    | some spec => exact .inr ⟨spec, rfl, rfl⟩

theorem putTerms_cases (t : Trail) (body : List UInt8) :
    (∃ resp, resp.status ≠ 204 ∧ putTerms t body = .reply t resp) ∨
      ∃ text, Utf8.decode? body = some text ∧
        putTerms t body = changed t .setMany (t.registry.assign text) := by
  unfold putTerms
  cases hbody : Utf8.decode? body with
  | none => exact .inl ⟨_, status_ne_noContent (.setMany notText), rfl⟩
  | some text => exact .inr ⟨text, rfl, rfl⟩

/-- Carrying out a call leaves the trail alone, or makes the change that the request asks for. -/
theorem run_cases {route : ControlRoute} {call : ControlCall}
    (hroute : ControlRoute.ofPath? q.target.path = some route) (hmethod : q.method ∈ route.methods)
    (hcall : route.call? q.method = some call) (limit : Option Nat) (t : Trail) :
    (∃ resp, resp.status ≠ 204 ∧ call.run t limit q = .reply t resp) ∨
      ∃ c refuse, Requested t.registry q c refuse ∧ call.run t limit q = changed t refuse c := by
  rcases call?_cases hmethod hcall with h | h | h | ⟨hput, name, rfl⟩ | ⟨hput, rfl, rfl⟩ |
    ⟨hdelete, name, rfl⟩
  · exact .inl (run_of_question (.inl h))
  · exact .inl (run_of_question (.inr (.inl h)))
  · exact .inl (run_of_question (.inr (.inr h)))
  · rw [ControlCall.run]
    split
    · exact .inl ⟨_, by decide, rfl⟩
    · rcases putTerm_cases t name q.body with h | ⟨spec, hspec, h⟩
      · exact .inl h
      · exact .inr ⟨_, _, .set hput hspec, h⟩
  · rw [ControlCall.run]
    split
    · exact .inl ⟨_, by decide, rfl⟩
    · rcases putTerms_cases t q.body with h | ⟨text, htext, h⟩
      · exact .inl h
      · exact .inr ⟨_, _, .assign hput (path_of_bulk hroute) htext, h⟩
  · exact .inr ⟨_, _, .deactivate hdelete, rfl⟩

theorem Requested.method_ne {c : Change} {refuse : RegistryError → RequestError}
    (h : Requested r q c refuse) : q.method ≠ "GET" ∧ q.method ≠ "HEAD" := by
  cases h with
  | set hm _ => rw [hm]; decide
  | assign hm _ _ => rw [hm]; decide
  | deactivate hm => rw [hm]; decide

/-- A control request changes nothing and does not answer 204, or makes the change that it asks for. -/
theorem control_cases (limit : Option Nat) (r : Registry) (d : Draws) (q : Request) :
    (∃ resp, resp.status ≠ 204 ∧ control limit r d q = .reply (Trail.start r d) resp) ∨
      ∃ c refuse, Requested r q c refuse ∧
        control limit r d q = (changed (Trail.start r d) refuse c).mapResponse (·.identified q) := by
  by_cases hlong : exceedsDeclared limit q = true
  · rw [control_eq, if_pos hlong]
    refine .inl ⟨finished q declaredTooLarge, ?_, rfl⟩
    rw [status_finished]
    decide
  have hadmitted : q.Admitted limit := exceedsDeclared_eq_false_iff.1 (Bool.not_eq_true _ ▸ hlong)
  rcases admitted_cases limit (Trail.start r d) q with
    ⟨resp, hresp, h⟩ | ⟨route, call, hroute, hmethod, hcall, -⟩
  · rw [control_eq, if_neg hlong, h]
    refine .inl ⟨finished q (resp.identified q), ?_, rfl⟩
    rw [status_finished]
    exact hresp
  rw [control_of_call hadmitted hroute hmethod hcall]
  rcases run_cases hroute hmethod hcall limit (Trail.start r d) with ⟨resp, hresp, h⟩ | ⟨c, refuse, hreq, h⟩
  · rw [h]
    refine .inl ⟨(resp.identified q).forMethod q.method, ?_, rfl⟩
    unfold Response.forMethod
    split <;> exact hresp
  · rw [h]
    refine .inr ⟨c, refuse, hreq, ?_⟩
    simp only [Response.forMethod, if_neg hreq.method_ne.2]

end FaultInjection.Http
