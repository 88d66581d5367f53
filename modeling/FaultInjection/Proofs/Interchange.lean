import FaultInjection.Proofs.Registry.Injection
import FaultInjection.Proofs.Run

/-!
# Two ways to wait

Instrumented code that may block its thread injects as a task does: two runs in which injections of the one
kind stand for injections of the other (`Use.Alike`) get the same replies and leave the same trail, up to how
the pauses in it were spent (`Trail.Agree.run`). Both are a hit, however they end (`Injected.IsHit`), and so is
an evaluation (`Evaluated.IsHit`).
-/

namespace FaultInjection

/-! ## Replies -/

/-- What a use is answered. -/
inductive Use.Reply where
  | done (result : Except RegistryError Unit)
  | action (result : Except RegistryError Action)
  | snapshot (result : Except RegistryError Snapshot)
  | text (result : Except RegistryError String)
  | count (result : Except RegistryError Nat)
  | listing (entries : List (String × String))
  | evaluation (e : Evaluation)
  | outcome (o : Outcome)
  | answer (a : Http.Answer)

/-- The reply to an operation. -/
def Operation.reply (r : Registry) (d : Draws) : Operation → Use.Reply
  | .set name spec => .done (r.set name spec).result
  | .setMany assignments => .done (r.setMany assignments).result
  | .assign body => .done (r.assign body).result
  | .deactivate name => .done (r.deactivate name).result
  | .hit name => .action (r.hit name d).1
  | .get name => .snapshot (r.get name)
  | .term name => .text (r.term name)
  | .count name => .count (r.count name)
  | .list => .listing r.list

/-- The reply to a use. -/
def Use.reply (r : Registry) (d : Draws) : Use → Use.Reply
  | .operate c => c.reply r d
  | .activate body => .done (r.activate body).result
  | .evaluate name => .evaluation (r.evaluate name d).evaluation
  | .inject name => .outcome (r.inject name d).outcome
  | .injectBlocking name => .outcome (r.injectBlocking name d).outcome
  | .control limit q => .answer (Http.control limit r d q).answer
  | .demo q => .answer (Http.demo r d q).answer

/-- The replies to several uses. -/
def Trail.replies (t : Trail) : List Use → List Use.Reply
  | [] => []
  | u :: uses => u.reply t.registry t.draws :: (t.after u).replies uses

/-! ## Runs that wait differently -/

/-- The uses are the same, or injections of either kind under the same name. -/
inductive Use.Alike : Use → Use → Prop
  | same (u : Use) : Alike u u
  | blocking (name : String) : Alike (.inject name) (.injectBlocking name)
  | suspending (name : String) : Alike (.injectBlocking name) (.inject name)

/-- The trails differ at most in how their pauses were spent. -/
structure Trail.Agree (t t' : Trail) : Prop where
  registry : t'.registry = t.registry
  events : t'.events = t.events
  draws : t'.draws = t.draws
  durations : t'.pauses.map Pause.duration = t.pauses.map Pause.duration

variable {r : Registry} {n : String} {d : Draws} {u u' : Use} {t t' : Trail}

theorem Use.Alike.reply (h : u.Alike u') (r : Registry) (d : Draws) : u'.reply r d = u.reply r d := by
  cases h with
  | same => rfl
  | _ => rw [Use.reply, Use.reply, Registry.inject_eq, Registry.injectBlocking_eq]

/-- The same action makes pauses of the same time, however they are spent. -/
theorem durations_pausesOf (waiting waiting' : Waiting) (a : Action) :
    (Registry.pausesOf waiting a).map Pause.duration = (Registry.pausesOf waiting' a).map Pause.duration := by
  cases a <;> rfl

theorem Use.Alike.trail (h : u.Alike u') (r : Registry) (d : Draws) : (u.trail r d).Agree (u'.trail r d) := by
  cases h with
  | same => exact ⟨rfl, rfl, rfl, rfl⟩
  | _ =>
    rw [Use.trail, Use.trail, Registry.inject_eq, Registry.injectBlocking_eq]
    exact ⟨rfl, rfl, rfl, durations_pausesOf ..⟩

/-- A use looks at the registry and the draws, and at nothing else that was left behind. -/
theorem Trail.Agree.after (h : t.Agree t') (hu : u.Alike u') : (t.after u).Agree (t'.after u') := by
  have hlater := hu.trail t.registry t.draws
  rw [Trail.after, Trail.after, h.registry, h.draws]
  refine ⟨hlater.registry, ?_, hlater.draws, ?_⟩
  · dsimp only
    rw [h.events, hlater.events]
  · dsimp only
    rw [List.map_append, List.map_append, h.durations, hlater.durations]

theorem Trail.Agree.run {uses uses' : List Use} (h : t.Agree t') (hs : List.Forall₂ Use.Alike uses uses') :
    t'.replies uses' = t.replies uses ∧ (t.run uses).Agree (t'.run uses') := by
  induction hs generalizing t t' with
  | nil => exact ⟨rfl, h⟩
  | @cons u u' uses uses' hu _ ih =>
    obtain ⟨hreplies, hagree⟩ := ih (h.after hu)
    refine ⟨?_, hagree⟩
    rw [Trail.replies, Trail.replies, hreplies, h.registry, h.draws, hu.reply]

/-! ## What injections have of hits -/

/-- A name is unknown, or its failpoint is disabled. -/
def Registry.Idle (r : Registry) (n : String) : Prop := ∀ f, r.find? n = some f → f.installed = none

/-- The registry and the draws are what a hit on `n` leaves, which is what was there if the name is idle. There
is a warning in the log if the name is not registered, and for no other reason. -/
structure Registry.HitLeaves (r : Registry) (n : String) (d : Draws) (r' : Registry) (d' : Draws)
    (events : List Event) : Prop where
  state : (r', d') = (r.hit n d).2
  idle : r.Idle n → (r', d') = (r, d)
  warns : (∃ e ∈ events, e.level = .warn) ↔ n ∉ r.names

/-- What is logged of an action under a name: that it fired, and its message if it prints one. -/
def Action.logged (n : String) : Action → List Event
  | .off => []
  | .print message => [Event.fired n "print", Event.printed n (message.getD ("failpoint " ++ n ++ " fired"))]
  | a => [Event.fired n a.kind]

/-- An injection leaves what a hit leaves, ends as the selected action says, logs that the action fired and what
it prints, and pauses in its own way for as long as a sleep says. -/
structure Injected.IsHit (waiting : Waiting) (i : Injected) (r : Registry) (n : String) (d : Draws) : Prop
    extends r.HitLeaves n d i.registry i.draws i.events where
  returns : ∀ value, i.outcome = .ret value ↔ (r.hit n d).1 = .ok (.ret value)
  panics : ∀ text, i.outcome = .panic text ↔ ∃ message, (r.hit n d).1 = .ok (.panic message) ∧
    text = message.getD ("failpoint " ++ n ++ " panicked")
  goesOn : i.outcome = .continue ↔ (∀ value, (r.hit n d).1 ≠ .ok (.ret value)) ∧
    ∀ message, (r.hit n d).1 ≠ .ok (.panic message)
  logs : i.events = (if n ∈ r.names then [] else [Event.unregistered n]) ++ (r.selected n d).logged n
  sleeps : ∀ duration, (r.hit n d).1 = .ok (.sleep duration) → i.pauses = [⟨waiting, duration⟩]
  unpaused : (∀ duration, (r.hit n d).1 ≠ .ok (.sleep duration)) → i.pauses = []

/-- An evaluation leaves what a hit leaves, logs no more than the warning, and tells the selected action. -/
structure Evaluated.IsHit (x : Evaluated) (r : Registry) (n : String) (d : Draws) : Prop
    extends r.HitLeaves n d x.registry x.draws x.events where
  acts : x.evaluation.shouldAct = true ↔ ∃ a, (r.hit n d).1 = .ok a ∧ a ≠ .off
  action : x.evaluation.action = r.selected n d
  logs : x.events = if n ∈ r.names then [] else [Event.unregistered n]

namespace Registry

theorem Idle.hit (hr : r.names.Nodup) (h : r.Idle n) (d : Draws) : (r.hit n d).2 = (r, d) := by
  obtain ⟨e, he⟩ := hit_of_idle hr h d
  rw [he]

theorem hitLeaves (hr : r.names.Nodup) (n : String) (d : Draws) (a : Action) :
    r.HitLeaves n d (r.hit n d).2.1 (r.hit n d).2.2 (r.warnings n ++ enacted n a) :=
  ⟨rfl, fun hidle => hidle.hit hr d, warned_iff r n a⟩

theorem enacted_eq_logged (n : String) (a : Action) : enacted n a = a.logged n := by
  cases a with
  | print message => cases message <;> rfl
  | _ => rfl

theorem pausesOf_eq_nil {waiting : Waiting} {a : Action} (h : ∀ duration, a ≠ .sleep duration) :
    pausesOf waiting a = [] := by
  cases a with
  | sleep duration => exact absurd rfl (h duration)
  | _ => rfl

/-- What is made of the action that a hit selects. -/
theorem isHit_enacted (hr : r.names.Nodup) (waiting : Waiting) (n : String) (d : Draws) :
    Injected.IsHit waiting ⟨outcomeOf n (r.selected n d), (r.hit n d).2.1,
      r.warnings n ++ enacted n (r.selected n d), pausesOf waiting (r.selected n d), (r.hit n d).2.2⟩ r n d := by
  have hret (value : Option Literal) : r.selected n d = .ret value ↔ (r.hit n d).1 = .ok (.ret value) :=
    selected_eq_iff nofun
  have hpanic (message : Option String) : r.selected n d = .panic message ↔ (r.hit n d).1 = .ok (.panic message) :=
    selected_eq_iff nofun
  have hsleep (duration : Duration) : r.selected n d = .sleep duration ↔ (r.hit n d).1 = .ok (.sleep duration) :=
    selected_eq_iff nofun
  refine ⟨hitLeaves hr n d _, fun value => ?returns, fun text => ?panics, ?goesOn, ?logs, ?sleeps, ?unpaused⟩
  case returns => exact outcomeOf_eq_ret_iff.trans (hret value)
  case panics =>
    rw [outcomeOf_eq_panic_iff]
    simp only [hpanic]
    rfl
  case goesOn =>
    rw [outcomeOf_eq_continue_iff, Action.Returns, Action.Panics]
    simp only [hret, hpanic, not_exists, ne_eq]
  case logs =>
    rw [enacted_eq_logged]
    rfl
  case sleeps =>
    intro duration h
    rw [(hsleep duration).2 h]
    rfl
  case unpaused =>
    intro h
    exact pausesOf_eq_nil fun duration hselected => h duration ((hsleep duration).1 hselected)

theorem isHit_inject (hr : r.names.Nodup) (n : String) (d : Draws) : (r.inject n d).IsHit .suspended r n d := by
  rw [inject_eq]
  exact isHit_enacted hr .suspended n d

theorem isHit_injectBlocking (hr : r.names.Nodup) (n : String) (d : Draws) :
    (r.injectBlocking n d).IsHit .blocked r n d := by
  rw [injectBlocking_eq]
  exact isHit_enacted hr .blocked n d

theorem isHit_evaluate (hr : r.names.Nodup) (n : String) (d : Draws) : (r.evaluate n d).IsHit r n d := by
  have hleaves := hitLeaves hr n d .off
  have hsilent : enacted n .off = [] := rfl
  rw [hsilent, List.append_nil] at hleaves
  rw [evaluate_eq]
  refine ⟨hleaves, ?acts, rfl, rfl⟩
  case acts =>
    have hoff : (!(r.selected n d).isOff) = true ↔ r.selected n d ≠ .off := by
      rw [Bool.not_eq_true', ← Bool.not_eq_true, Action.isOff_iff]
    refine hoff.trans ⟨fun h => ⟨_, (selected_eq_iff h).1 rfl, h⟩, ?_⟩
    rintro ⟨a, ha, hne⟩
    rwa [selected_of_ok ha]

end Registry

/-- From every state that can be reached, runs that differ only in the kind of their injections agree in all
replies and, after any of their uses, in the registry, the log, the draws and the time of all pauses. In each
such state, an injection of either kind is one hit on its name, and so is an evaluation. -/
theorem injection_is_hit (r : Registry) (h : r.Reachable) (d : Draws) :
    (∀ uses uses', List.Forall₂ Use.Alike uses uses' →
      (Trail.start r d).replies uses' = (Trail.start r d).replies uses ∧
      ∀ k, ((Trail.start r d).run (uses.take k)).Agree ((Trail.start r d).run (uses'.take k))) ∧
    (∀ n, (r.inject n d).IsHit .suspended r n d) ∧ (∀ n, (r.injectBlocking n d).IsHit .blocked r n d) ∧
    ∀ n, (r.evaluate n d).IsHit r n d := by
  have hself : (Trail.start r d).Agree (Trail.start r d) := ⟨rfl, rfl, rfl, rfl⟩
  refine ⟨fun uses uses' hs => ⟨?_, fun k => ?_⟩, ?_, ?_, ?_⟩
  · exact (hself.run hs).1
  · exact (hself.run (List.forall₂_take k hs)).2
  · exact fun n => Registry.isHit_inject h.nodup n d
  · exact fun n => Registry.isHit_injectBlocking h.nodup n d
  · exact fun n => Registry.isHit_evaluate h.nodup n d

/-- A term with a panic and a pause, injections under it and under no registered name, and a look at the
count of hits. -/
def lively : List Use :=
  [.operate (.set "a" "1*panic->1*sleep(1)->return(3)"), .inject "a", .injectBlocking "a", .inject "a",
    .injectBlocking "c", .operate (.count "a")]

/-- The same, with each injection of the other kind. -/
def livelyAgain : List Use :=
  [.operate (.set "a" "1*panic->1*sleep(1)->return(3)"), .injectBlocking "a", .inject "a", .injectBlocking "a",
    .inject "c", .operate (.count "a")]

/-- Of whichever kind they are, the injections are three hits. -/
theorem injection_is_hit_lively : twoNames.Reachable ∧
    (Trail.start twoNames (.constant .zero)).replies lively =
      [.done (.ok ()), .outcome (.panic "failpoint a panicked"), .outcome .continue,
        .outcome (.ret (some (.integer 3))), .outcome .continue, .count (.ok 3)] ∧
    (Trail.start twoNames (.constant .zero)).replies livelyAgain =
      (Trail.start twoNames (.constant .zero)).replies lively ∧
    ((Trail.start twoNames (.constant .zero)).run lively).Agree
      ((Trail.start twoNames (.constant .zero)).run livelyAgain) := by
  have hnew : Registry.ofNames ["b", "a"] = .ok twoNames := by decide +kernel
  have hreach : twoNames.Reachable := ⟨_, _, .constant .zero, [], hnew, rfl⟩
  have halike : List.Forall₂ Use.Alike lively livelyAgain :=
    .cons (.same _) <| .cons (.blocking _) <| .cons (.suspending _) <| .cons (.blocking _) <|
      .cons (.suspending _) <| .cons (.same _) .nil
  obtain ⟨hreplies, hagree⟩ := (injection_is_hit twoNames hreach (.constant .zero)).1 _ _ halike
  exact ⟨hreach, by rfl, hreplies, hagree 6⟩

end FaultInjection
