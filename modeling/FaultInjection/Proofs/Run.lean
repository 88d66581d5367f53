import FaultInjection.Http.DemoPlane
import FaultInjection.Proofs.Http.Control
import FaultInjection.Proofs.Registry.Answers
import FaultInjection.Proofs.Registry.Invariant

/-!
# Runs

A `Use` is anything that can be asked of a registry from outside: an operation, the configured
activation, a question or an injection of instrumented code, or a request to either plane. `Trail.run`
makes one use after another, whatever their arguments and the draws are, and goes on after a panic.
Every use is an evolution of the registry (`leads_after`), so every state that a run reaches is sound,
`sound_run`.
-/

namespace FaultInjection

/-- Something that is asked of a registry. -/
inductive Use where
  | operate (c : Operation)
  | activate (body : String)
  | evaluate (name : String)
  | inject (name : String)
  | injectBlocking (name : String)
  | control (limit : Option Nat) (q : Http.Request)
  | demo (q : Http.Request)

/-- What an operation logs. -/
def Operation.events (r : Registry) : Operation → List Event
  | .set name spec => (r.set name spec).events
  | .setMany assignments => (r.setMany assignments).events
  | .assign body => (r.assign body).events
  | .deactivate name => (r.deactivate name).events
  | .hit _ | .get _ | .term _ | .count _ | .list => []

/-- What a use leaves behind. -/
def Use.trail (r : Registry) (d : Draws) : Use → Trail
  | .operate c =>
    let after := Session.after ⟨r, d⟩ c
    ⟨after.registry, c.events r, [], after.draws⟩
  | .activate body => ⟨(r.activate body).registry, (r.activate body).events, [], d⟩
  | .evaluate name =>
    let e := r.evaluate name d
    ⟨e.registry, e.events, [], e.draws⟩
  | .inject name =>
    let i := r.inject name d
    ⟨i.registry, i.events, i.pauses, i.draws⟩
  | .injectBlocking name =>
    let i := r.injectBlocking name d
    ⟨i.registry, i.events, i.pauses, i.draws⟩
  | .control limit q => (Http.control limit r d q).trail
  | .demo q => (Http.demo r d q).trail

namespace Trail

/-- The trail after one more use. -/
def after (t : Trail) (u : Use) : Trail :=
  let later := u.trail t.registry t.draws
  ⟨later.registry, t.events ++ later.events, t.pauses ++ later.pauses, later.draws⟩

/-- The trail after several uses. -/
def run (t : Trail) (uses : List Use) : Trail := uses.foldl after t

end Trail

namespace Http

variable {t : Trail}

theorem leads_changed (t : Trail) (refuse : RegistryError → RequestError) {c : Change}
    (h : t.registry.Evolves c.events c.registry) : t.Leads (changed t refuse c).trail := ⟨_, h, rfl⟩

theorem leads_control (limit : Option Nat) (r : Registry) (d : Draws) (q : Request) :
    (Trail.start r d).Leads (control limit r d q).trail := by
  rcases control_cases limit r d q with ⟨resp, -, h⟩ | ⟨c, refuse, hreq, h⟩
  · rw [h]
    exact .refl _
  · rw [h, trail_mapResponse]
    apply leads_changed
    cases hreq with
    | set _ _ => exact Registry.evolves_set r _ _
    | assign _ _ _ => exact Registry.evolves_applyEntries r _
    | deactivate _ => exact Registry.evolves_deactivate r _

theorem leads_callNamed (t : Trail) (name : String) (arguments : Nat) :
    t.Leads (callNamed t name arguments).trail := by
  unfold callNamed
  split
  · exact .refl t
  · next f _ =>
    have hcall := DemoFunction.leads_call f t
    split
    · split <;> next h => simpa [h, Exchange.reply] using hcall
    · exact .refl t

theorem leads_demo (r : Registry) (d : Draws) (q : Request) :
    (Trail.start r d).Leads (demo r d q).trail := by
  unfold demo
  dsimp only
  rw [trail_mapResponse]
  split
  · exact .refl _
  · split
    · split
      · exact .refl _
      · exact leads_callNamed _ _ _
    · exact .refl _

end Http

theorem evolves_operation (r : Registry) (d : Draws) (c : Operation) :
    r.Evolves (c.events r) (Session.after ⟨r, d⟩ c).registry := by
  cases c with
  | set name spec => exact Registry.evolves_set r name spec
  | setMany assignments => exact Registry.evolves_applyEntries r _
  | assign body => exact Registry.evolves_applyEntries r _
  | deactivate name => exact Registry.evolves_deactivate r name
  | hit name => exact Registry.evolves_hit r name d
  | _ => exact .refl r

theorem leads_use (r : Registry) (d : Draws) (u : Use) : (Trail.start r d).Leads (u.trail r d) := by
  cases u with
  | operate c => exact ⟨_, evolves_operation r d c, rfl⟩
  | activate body => exact ⟨_, Registry.evolves_activate r body, rfl⟩
  | evaluate name => exact ⟨_, Registry.evolves_evaluate r name d, rfl⟩
  | inject name => exact ⟨_, Registry.evolves_inject r name d, rfl⟩
  | injectBlocking name => exact ⟨_, Registry.evolves_injectBlocking r name d, rfl⟩
  | control limit q => exact Http.leads_control limit r d q
  | demo q => exact Http.leads_demo r d q

namespace Trail

theorem leads_after (t : Trail) (u : Use) : t.Leads (t.after u) := by
  obtain ⟨es, hevolves, hevents⟩ := leads_use t.registry t.draws u
  refine ⟨es, hevolves, ?_⟩
  rw [after, hevents]
  rfl

theorem leads_run (t : Trail) (uses : List Use) : t.Leads (t.run uses) := by
  induction uses generalizing t with
  | nil => exact .refl t
  | cons u uses ih => exact (leads_after t u).trans (ih (t.after u))

/-- The failpoint under `n` in `r`, and after the uses on `r` that left this trail. What is logged as an
install or as a removal is one. If no install is logged, the failpoint is as it was, or holds its term and
stands no earlier in it, or was removed; and only where a removal is logged can its index be less, which is
then that of a failpoint without a term. -/
def KeepsPlace (r : Registry) (t : Trail) (n : String) : Prop :=
  (∀ spec, Event.enabled n spec ∈ t.events → r.Installs t.events t.registry n spec) ∧
  (Event.disabled n ∈ t.events → r.Removes t.events t.registry n) ∧
  ∃ f f', r.find? n = some f ∧ t.registry.find? n = some f' ∧
    ((∀ spec, Event.enabled n spec ∉ t.events) →
      f.Follows (Event.disabled n ∈ t.events) f' ∧
      (f.position.index ≤ f'.position.index ∨
        Event.disabled n ∈ t.events ∧ f'.installed = none ∧ f'.position = Position.origin))

theorem keepsPlace_run {r : Registry} {n : String} (hn : n ∈ r.names) (d : Draws) (uses : List Use) :
    KeepsPlace r ((start r d).run uses) n := by
  obtain ⟨f, hf⟩ := Registry.exists_find? hn
  obtain ⟨es, hevolves, hevents⟩ := leads_run (start r d) uses
  obtain ⟨f', hf', hfollows⟩ := hevolves.follows hf
  have hes : ((start r d).run uses).events = es := hevents
  rw [← hes] at hevolves hfollows
  refine ⟨fun spec hmem => hevolves.installs hmem, fun hmem => hevolves.removes hmem, f, f', hf, hf', fun hno => ?_⟩
  have hlater : f.Follows _ f' := hfollows hno
  exact ⟨hlater, hlater.index_le⟩

/-- In every state that a run reaches from a new registry, every failpoint is sound; and however the run
goes on from there, between two installs on a failpoint the index in its term never decreases, except that
the removal of the term sets it back. -/
theorem sound_run (texts : List String) (r : Registry) (h : Registry.ofNames texts = .ok r) (d : Draws)
    (uses : List Use) :
    (∀ f ∈ ((start r d).run uses).registry.failpoints, f.Sound) ∧
    ∀ n ∈ texts, ∀ d' later, KeepsPlace ((start r d).run uses).registry
      ((start ((start r d).run uses).registry d').run later) n := by
  obtain ⟨hfresh, hnames⟩ := Registry.ofNames_spec h
  obtain ⟨es, hevolves, -⟩ := leads_run (start r d) uses
  constructor
  · exact hevolves.sound hfresh.sound
  · intro n hn d' later
    obtain ⟨f, hf⟩ := Registry.exists_find? (hnames.mem_iff.2 hn)
    obtain ⟨f', hf', -⟩ := hevolves.follows hf
    exact keepsPlace_run (Registry.mem_names_of_find? hf') d' later

/-- A term was put under a name, and the first hit on it panicked. -/
def panicked : Trail :=
  (start twoNames (.constant .zero)).run [.operate (.set "a" "1*panic->print"), .inject "a"]

/-- Another hit on it went on to print. -/
def wentOn : Trail := (start panicked.registry (.constant .zero)).run [.injectBlocking "a"]

/-- A panic leaves the failpoint sound, and the next hit finds it where the panic left it. -/
theorem sound_run_panicked : (∀ f ∈ panicked.registry.failpoints, f.Sound) ∧
    ∃ f f', panicked.registry.find? "a" = some f ∧ wentOn.registry.find? "a" = some f' ∧
      f.position.index ≤ f'.position.index := by
  have hnew : Registry.ofNames ["b", "a"] = .ok twoNames := by decide +kernel
  obtain ⟨hsound, hplace⟩ := sound_run ["b", "a"] twoNames hnew (.constant .zero)
    [.operate (.set "a" "1*panic->print"), .inject "a"]
  obtain ⟨-, -, f, f', hf, hf', hfollows⟩ := hplace "a" (by simp) (.constant .zero) [.injectBlocking "a"]
  have hlog : wentOn.events = [Event.fired "a" "print", Event.printed "a" "failpoint a fired"] := by
    decide +kernel
  have hno : ∀ spec, Event.enabled "a" spec ∉ wentOn.events := by
    rw [hlog]
    simp [Event.enabled, Event.fired, Event.printed]
  have hkept : Event.disabled "a" ∉ wentOn.events := by
    rw [hlog]
    simp [Event.disabled, Event.fired, Event.printed]
  exact ⟨hsound, f, f', hf, hf', (hfollows hno).2.resolve_right fun hremoved => hkept hremoved.1⟩

/-- A term is put under a name, and a hit on it goes on to the second segment. -/
def movedOn : Trail := (start twoNames (.constant .zero)).run [.operate (.set "a" "1*return->off"), .inject "a"]

/-- The term is removed again, and no other is put in its place. -/
def setBack : Trail := (start movedOn.registry (.constant .zero)).run [.operate (.deactivate "a")]

/-- With no install in between, the removal of the term takes the index from one back to zero. -/
theorem index_falls_back : Registry.ofNames ["b", "a"] = .ok twoNames ∧
    (∀ spec, Event.enabled "a" spec ∉ setBack.events) ∧
    ∃ f f', movedOn.registry.find? "a" = some f ∧ setBack.registry.find? "a" = some f' ∧
      f.position.index = 1 ∧ f'.position.index = 0 := by
  have hlog : setBack.events = [Event.disabled "a"] := by decide +kernel
  have hbefore : (movedOn.registry.find? "a").map (·.position.index) = some 1 := by decide +kernel
  have hafter : (setBack.registry.find? "a").map (·.position.index) = some 0 := by decide +kernel
  obtain ⟨f, hf, hone⟩ := Option.map_eq_some_iff.1 hbefore
  obtain ⟨f', hf', hzero⟩ := Option.map_eq_some_iff.1 hafter
  refine ⟨by decide +kernel, fun spec hmem => ?_, f, f', hf, hf', hone, hzero⟩
  rw [hlog] at hmem
  simp [Event.enabled, Event.disabled] at hmem

end Trail

namespace Registry

/-- Some run on a new registry leads here. -/
def Reachable (r : Registry) : Prop :=
  ∃ texts r₀ d uses, ofNames texts = .ok r₀ ∧ r = ((Trail.start r₀ d).run uses).registry

theorem Reachable.nodup {r : Registry} (h : r.Reachable) : r.names.Nodup := by
  obtain ⟨texts, r₀, d, uses, hnew, rfl⟩ := h
  obtain ⟨es, hevolves, -⟩ := Trail.leads_run (Trail.start r₀ d) uses
  rw [hevolves.names]
  exact (ofNames_spec hnew).1.nodup

end Registry

end FaultInjection
