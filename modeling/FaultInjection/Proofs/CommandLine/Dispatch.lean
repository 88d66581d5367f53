import FaultInjection.CommandLine.Local
import FaultInjection.Proofs.CommandLine.Request
import FaultInjection.Proofs.Registry.Basic

/-!
# Where the requests of commands lead

The control plane finds the handler of a request from its path and method (`Http.dispatch?`).
`command_reaches_handler` says that the request which is sent for a command is dispatched to the command's own
handler, with the name as it was given, unless the name consists of dots.
-/

namespace FaultInjection

open Text

namespace Http

variable {limit : Option Nat} {r : Registry} {d : Draws} {q : Request}

/-- The call that the control plane makes for a request whose length it admits, if it makes one. -/
def dispatch? (q : Request) : Option ControlCall :=
  (ControlRoute.ofPath? q.target.path).bind fun route =>
    if q.method ∈ route.methods then route.call? q.method else none

theorem dispatch?_of_route {route : ControlRoute} (hroute : ControlRoute.ofPath? q.target.path = some route) :
    dispatch? q = if q.method ∈ route.methods then route.call? q.method else none := by
  rw [dispatch?, hroute, Option.bind_some]

/-- An admitted request is answered by the call that it is dispatched to. -/
theorem control_of_dispatch {call : ControlCall} (h : q.Admitted limit) (hcall : dispatch? q = some call) :
    control limit r d q =
      (call.run (Trail.start r d) limit q).mapResponse fun resp => (resp.identified q).forMethod q.method := by
  obtain ⟨route, hroute, hfound⟩ := Option.bind_eq_some_iff.1 hcall
  by_cases hmethod : q.method ∈ route.methods
  · rw [if_pos hmethod] at hfound
    exact control_of_call h hroute hmethod hfound
  · rw [if_neg hmethod] at hfound
    cases hfound

end Http

namespace Command

open Http Url

/-- The handler that a command is meant for. -/
def handler : Command → ControlCall
  | list => .list
  | get n => .get n
  | count n => .count n
  | set n _ => .set n
  | setMany _ => .setMany
  | deactivate n => .deactivate n

variable {usual : Nat} {c : Command} {n : Name} {q : Request}

/-- A command about a failpoint asks for its count, or acts by its method on the name. -/
theorem count_or_single {s : String} (hc : c.subject? = some s) : c = count s ∨
    (c.segments = [s] ∧ c.method ∈ ["GET", "HEAD", "PUT", "DELETE"] ∧ c.handler = .onName c.method s) := by
  cases c with
  | list => cases hc
  | setMany _ => cases hc
  | count s' =>
    obtain rfl := Option.some.inj hc
    exact .inl rfl
  | get s' =>
    obtain rfl := Option.some.inj hc
    exact .inr ⟨rfl, by simp [method], rfl⟩
  | set s' spec =>
    obtain rfl := Option.some.inj hc
    exact .inr ⟨rfl, by simp [method], rfl⟩
  | deactivate s' =>
    obtain rfl := Option.some.inj hc
    exact .inr ⟨rfl, by simp [method], rfl⟩

theorem list_ne_onName (m s : String) : ControlCall.list ≠ .onName m s := by
  unfold ControlCall.onName
  split
  · simp
  · split <;> simp

/-! ## Routes -/

/-- The request of a command, apart from its body. -/
structure Asks (usual : Nat) (c : Command) (q : Request) : Prop where
  method : q.method = c.method
  path : q.target.path = (c.path usual).text

/-- A single segment that spells the name leads to what the method does with a name. -/
theorem Asks.dispatch_of_single (hq : Asks usual c q) (hc : c.segments = [n.text]) (h : NotDots n.text)
    (hmethod : c.method ∈ ["GET", "HEAD", "PUT", "DELETE"]) :
    ControlRoute.ofPath? q.target.path = some (.single (encoded n.text.toList)) ∧
      dispatch? q = some (.onName c.method n.text) := by
  have hspells := spells_encoded n.text
  have hpath : q.target.path = '/' :: encoded n.text.toList := by
    rw [hq.path, path_of_single hc h]
    exact List.append_nil _
  have hroute : ControlRoute.ofPath? q.target.path = some (.single (encoded n.text.toList)) := by
    rw [hpath, ofPath?_of_segment hspells.whole hspells.ne.1, if_neg hspells.ne.2]
  refine ⟨hroute, ?_⟩
  rw [dispatch?_of_route hroute, hq.method, ControlRoute.methods, if_pos hmethod, ControlRoute.call?,
    hspells.denotes]
  rfl

theorem Asks.dispatch_of_count (hq : Asks usual (count n.text) q) (h : NotDots n.text) :
    ControlRoute.ofPath? q.target.path = some (.count (encoded n.text.toList)) ∧
      dispatch? q = some (.count n.text) := by
  have hspells := spells_encoded n.text
  have hpath : q.target.path = '/' :: (encoded n.text.toList ++ '/' :: "count".toList) := by
    rw [hq.path, path_of_count h]
    rfl
  have hroute : ControlRoute.ofPath? q.target.path = some (.count (encoded n.text.toList)) := by
    rw [hpath, ofPath?_of_count hspells.whole]
  have hmethod : q.method ∈ ["GET", "HEAD"] := hq.method ▸ List.mem_cons_self
  refine ⟨hroute, ?_⟩
  rw [dispatch?_of_route hroute, ControlRoute.methods, if_pos hmethod, ControlRoute.call?, hspells.denotes]
  rfl

/-- A name that is not dots is found again, on a route of its own. -/
theorem Asks.dispatch_of_named (hq : Asks usual c q) (hc : c.subject? = some n.text) (h : NotDots n.text) :
    ControlRoute.ofPath? q.target.path ≠ some .bulk ∧ dispatch? q = some c.handler := by
  rcases count_or_single hc with rfl | ⟨hsegments, hmethod, hhandler⟩
  · obtain ⟨hroute, hcall⟩ := hq.dispatch_of_count h
    exact ⟨by simp [hroute], hcall⟩
  · obtain ⟨hroute, hcall⟩ := hq.dispatch_of_single hsegments h hmethod
    exact ⟨by simp [hroute], hhandler ▸ hcall⟩

theorem route_of_root (hpath : q.target.path = Path.text [[]]) :
    ControlRoute.ofPath? q.target.path = some .list := by
  rw [hpath]
  decide

theorem Asks.dispatch_of_list (hq : Asks usual list q) :
    q.target.path = "/".toList ∧ dispatch? q = some .list := by
  have hmethod : q.method ∈ ["GET", "HEAD"] := hq.method ▸ List.mem_cons_self
  refine ⟨hq.path, ?_⟩
  rw [dispatch?_of_route (route_of_root hq.path), ControlRoute.methods, if_pos hmethod]
  rfl

theorem Asks.dispatch_of_setMany {text : String} (hq : Asks usual (setMany text) q) :
    q.target.path = "/failpoints".toList ∧ dispatch? q = some .setMany := by
  have hword : encoded "failpoints".toList = "failpoints".toList := by decide
  have hpath : q.target.path = "/failpoints".toList := by
    rw [hq.path, Command.path, segments, List.map_singleton, List.foldl_cons, List.foldl_nil,
      push_text (by decide) (by decide), if_pos rfl, hword]
    rfl
  have hroute : ControlRoute.ofPath? q.target.path = some .bulk := by
    rw [hpath]
    decide
  have hmethod : q.method ∈ ["PUT"] := hq.method ▸ List.mem_cons_self
  refine ⟨hpath, ?_⟩
  rw [dispatch?_of_route hroute, ControlRoute.methods, if_pos hmethod]
  rfl

/-- Dots lead to the root: a name of dots is not the one that is looked up, if anything is. -/
theorem Asks.dispatch_of_dots {s : String} (hq : Asks usual c q) (hc : c.subject? = some s)
    (h : ¬ NotDots s) : ControlRoute.ofPath? q.target.path ≠ some .bulk ∧ dispatch? q ≠ some c.handler := by
  rcases count_or_single hc with rfl | ⟨hsegments, -, hhandler⟩
  · -- The word behind the name is taken for a name.
    have hword : encoded "count".toList = "count".toList := by decide
    have hroute : ControlRoute.ofPath? q.target.path = some (.single "count".toList) := by
      rw [hq.path, path_of_dots rfl h, List.map_singleton, List.foldl_cons, List.foldl_nil,
        push_text (by decide) (by decide), if_pos rfl, hword]
      decide
    refine ⟨by simp [hroute], ?_⟩
    rw [dispatch?_of_route hroute, hq.method]
    simp [ControlRoute.methods, ControlRoute.call?, Command.method, handler, ControlCall.onName]
  · have hroute : ControlRoute.ofPath? q.target.path = some .list := by
      apply route_of_root
      rw [hq.path, path_of_dots hsegments h]
      rfl
    refine ⟨by simp [hroute], ?_⟩
    rw [dispatch?_of_route hroute, hhandler]
    split
    · exact fun hlist => list_ne_onName c.method s (Option.some.inj hlist)
    · simp

/-- Only dots keep a command from its handler. -/
theorem Asks.dispatch_iff (hq : Asks usual c q) (hc : ∀ s ∈ c.subject?, ∃ n : Name, n.text = s) :
    (dispatch? q = some c.handler ↔ ∀ s ∈ c.subject?, NotDots s) ∧
      ∀ s ∈ c.subject?, ControlRoute.ofPath? q.target.path ≠ some .bulk := by
  cases hs : c.subject? with
  | none =>
    have hhandler : dispatch? q = some c.handler := by
      cases c with
      | list => exact hq.dispatch_of_list.2
      | setMany text => exact hq.dispatch_of_setMany.2
      | get s => cases hs
      | count s => cases hs
      | set s spec => cases hs
      | deactivate s => cases hs
    simp [hhandler]
  | some s =>
    obtain ⟨n, rfl⟩ := hc s hs
    by_cases hn : NotDots n.text
    · obtain ⟨hbulk, hcall⟩ := hq.dispatch_of_named hs hn
      simp [hbulk, hcall, hn]
    · obtain ⟨hbulk, hcall⟩ := hq.dispatch_of_dots hs hn
      simp [hbulk, hcall, hn]

end Command

/-- What becomes of a reply that was received, or of none. -/
def Reply.received : Option Reply → Except ExecutionError Reply
  | some reply => .ok reply
  | none => .error .transport

/-- A command that has a request sends it, once and first of all, and gives what is received. -/
theorem execute_of_call {m : Type → Type} [Monad m] [LawfulMonad m] (send : Call → m (Option Reply)) {base : String}
    {c : Command} {call : Call} (h : c.call base = .ok call) :
    execute send base c = Reply.received <$> send call := by
  rw [execute, h, map_eq_pure_bind]
  refine bind_congr fun reply => ?_
  cases reply <;> rfl

/-- On a registry at hand, the call is answered by the control plane. -/
theorem run_of_call {base : String} {c : Command} {call : Call} (h : c.call base = .ok call) (r : Registry) :
    c.run base r = (Reply.received (Reply.ofAnswer? (Http.control none r (.constant .zero) call.request).answer),
      (Http.control none r (.constant .zero) call.request).trail.registry) := by
  rw [Command.run, execute_of_call Call.answer h]
  rfl

/-- A host by its name, with a port. -/
def localBase : Url.Base where
  scheme := "http".toList
  host := "localhost".toList
  port := some "1234".toList
  slash := false
  web := by decide
  hostText := by
    have hall : "localhost".toList.all
        (fun c => decide (0x20 < c.toNat ∧ Url.isMark c = false ∧ c ≠ ':' ∧ c ≠ '[')) = true := by decide
    exact .plain fun c hc => of_decide_eq_true (List.all_eq_true.1 hall c hc)
  hostRead := ⟨.name "localhost".toList, by decide +kernel⟩
  portRead := by
    intro ds hds
    obtain rfl := Option.some.inj hds
    exact .inr ⟨1234, by decide, by decide⟩

/-- A name with marks of an address in it. -/
def markedName : Name := ⟨"a?b#%2e", by decide⟩

/-- Note a call and reply to it. -/
def noted (reply : Reply) (call : Call) : StateM (List Call) (Option Reply) := fun calls =>
  (some reply, calls ++ [call])

end FaultInjection
