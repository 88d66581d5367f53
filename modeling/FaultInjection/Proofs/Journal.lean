import FaultInjection.Proofs.Run

/-!
# The log is a journal

Installs and removals leave entries in the log (`Event.line?`). To replay a log is to write its entries
into a listing one after another; whatever else was logged does not count. `log_is_journal` says that the
replayed log of a run is the listing at every point of the run. It comes down to one fact about each step
of a registry, `Step.replay`.
-/

namespace FaultInjection

namespace Event

/-- What an event tells of a failpoint: its name, and the text of its term from then on. The text is empty
for a failpoint that was disabled. -/
def line? : Event → Option (String × String)
  | ⟨.info, "Failpoint enabled", [("name", name), ("term", spec)]⟩ => some (name, spec)
  | ⟨.info, "Failpoint disabled", [("name", name)]⟩ => some (name, "")
  | _ => none

@[simp] theorem line?_enabled (n spec : String) : (enabled n spec).line? = some (n, spec) := rfl

@[simp] theorem line?_disabled (n : String) : (disabled n).line? = some (n, "") := rfl

theorem line?_of_not_isEntry {e : Event} (h : ¬ e.IsEntry) : e.line? = none := by
  unfold line?
  split
  · exact absurd (.inl ⟨_, _, rfl⟩) h
  · exact absurd (.inr ⟨_, rfl⟩) h
  · rfl

end Event

namespace Journal

/-- A listing with the text under one name replaced. -/
def enter (listing : List (String × String)) (entry : String × String) : List (String × String) :=
  listing.map fun line => if line.1 = entry.1 then entry else line

/-- A listing after an event. -/
def note (listing : List (String × String)) (e : Event) : List (String × String) :=
  match e.line? with
  | some entry => enter listing entry
  | none => listing

/-- A listing after all events of a log. -/
def replay (listing : List (String × String)) (es : List Event) : List (String × String) :=
  es.foldl note listing

variable {listing : List (String × String)} {es es' : List Event}

theorem replay_append : replay listing (es ++ es') = replay (replay listing es) es' := List.foldl_append

theorem replay_enabled (n spec : String) : replay listing [Event.enabled n spec] = enter listing (n, spec) :=
  rfl

theorem replay_disabled (n : String) : replay listing [Event.disabled n] = enter listing (n, "") := rfl

theorem replay_remark {e : Event} (h : ¬ e.IsEntry) : replay listing [e] = listing := by
  show note listing e = listing
  rw [note, Event.line?_of_not_isEntry h]

end Journal

namespace Registry

open Journal

variable {r r' : Registry} {es : List Event} {n : String}

/-! ## Steps -/

/-- A change under one name that gives it a text is a line of the listing replaced. -/
theorem list_modify {change : Failpoint → Failpoint} {text : String} (hname : KeepsName r n change)
    (htext : ∀ f ∈ r.failpoints, f.name.text = n → (change f).termText = text) :
    (r.modify n change).list = enter r.list (n, text) := by
  rw [list, list, modify, enter, List.map_map, List.map_map]
  apply List.map_congr_left
  intro f hf
  by_cases hn : f.name.text = n
  · simp [hn, hname f hf hn, htext f hf hn]
  · simp [hn]

theorem termText_hit (f : Failpoint) (d : Draws) : (f.hit d).2.1.termText = f.termText := by
  cases ht : f.installed with
  | none => rw [Failpoint.hit_of_none ht]
  | some t => rw [Failpoint.hit_of_some ht, Failpoint.termText, Failpoint.termText]

/-- A hit leaves the listing alone. -/
theorem list_hit (hr : r.names.Nodup) {f : Failpoint} (hf : r.find? n = some f) (d : Draws) :
    (r.modify n fun _ => (f.hit d).2.1).list = r.list := by
  rw [list, list, modify, List.map_map]
  apply List.map_congr_left
  intro g hg
  by_cases hn : g.name.text = n
  · -- The failpoint that was found is the only one with the name.
    have hfound := find?_of_mem hr hg
    rw [hn, hf] at hfound
    obtain rfl := Option.some.inj hfound
    simp [hn, Failpoint.name_hit, termText_hit]
  · simp [hn]

/-- What a step logs says what it does to the listing. -/
theorem Step.replay (hr : r.names.Nodup) (h : Step r es r') : replay r.list es = r'.list := by
  cases h with
  | @install n spec f t hf ht =>
    have htext : t.display = spec := (chainText_of_parse ht).1
    rw [replay_enabled, list_modify (keepsName_install t) fun _ _ _ => htext]
  | clear hf => rw [replay_disabled, list_modify keepsName_clear fun _ _ _ => rfl]
  | hit d hf => exact (list_hit hr hf d).symm
  | remark he => exact replay_remark he

theorem Evolves.replay (hr : r.names.Nodup) (h : Evolves r es r') : replay r.list es = r'.list := by
  induction h with
  | refl => rfl
  | step hstep _ ih =>
    rw [replay_append, hstep.replay hr]
    apply ih
    rw [hstep.names]
    exact hr

theorem Fresh.list_eq (hr : r.Fresh) : r.list = r.names.map fun n => (n, "") := by
  rw [list, names, List.map_map]
  apply List.map_congr_left
  intro f hf
  rw [Function.comp_apply, Failpoint.termText, hr.installed_eq_none hf]

/-! ## Bulk texts and injections -/

/-- What an entry of a bulk text installs: nothing, if it is malformed, names no registered failpoint, or
holds no term. -/
def carriedOut? (names : List String) : Except RegistryError Assignment → Option (String × String)
  | .error _ => none
  | .ok a => if a.name ∈ names ∧ (Term.parse a.spec).isOk then some (a.name, a.spec) else none

theorem entries_set (r : Registry) (a : Assignment) :
    (r.set a.name a.spec).events.filterMap Event.line? = (carriedOut? r.names (.ok a)).toList := by
  cases hf : r.find? a.name with
  | none =>
    have hn : a.name ∉ r.names := find?_eq_none_iff.1 hf
    simp [set_of_none hf, carriedOut?, hn]
  | some f =>
    have hn : a.name ∈ r.names := mem_names_of_find? hf
    cases ht : Term.parse a.spec with
    | ok t =>
      rw [set_of_parse hf ht]
      simp [carriedOut?, hn, ht, Except.isOk, Except.toBool]
    | error fault =>
      have hremark : ¬ (Event.rejected a.name a.spec fault.toInputError.message).IsEntry :=
        Event.not_isEntry_of_level (by simp [Event.rejected])
      rw [set_of_fault hf ht]
      simp [carriedOut?, ht, Except.isOk, Except.toBool, Event.line?_of_not_isEntry hremark]

/-- The log of a bulk text has an entry for each install, in order, and no other. -/
theorem entries_applyEntries (r : Registry) (entries : List (Except RegistryError Assignment)) :
    (r.applyEntries entries).events.filterMap Event.line? = entries.filterMap (carriedOut? r.names) := by
  induction entries generalizing r with
  | nil => rfl
  | cons entry entries ih =>
    have htail := ih (r.applyEntry entry).registry
    rw [applyEntries]
    cases entry with
    | error e =>
      rw [List.filterMap_cons_none rfl]
      exact htail
    | ok a =>
      rw [applyEntry, names_set] at htail
      rw [List.filterMap_append, applyEntry, entries_set, htail]
      cases hc : carriedOut? r.names (.ok a) <;> simp [hc]

/-- What is enacted leaves no entry, whatever is printed. -/
theorem entries_enacted (r : Registry) (n : String) (a : Action) :
    (r.warnings n ++ enacted n a).filterMap Event.line? = [] := by
  apply List.filterMap_eq_nil_iff.2
  intro e he
  apply Event.line?_of_not_isEntry
  exact (List.mem_append.1 he).elim not_isEntry_of_mem_warnings not_isEntry_of_mem_enacted

end Registry

namespace Trail

open Registry

theorem run_append (t : Trail) (before after : List Use) :
    t.run (before ++ after) = (t.run before).run after := List.foldl_append

/-- The log of a run grows, and so far as it goes it tells the listing. -/
theorem replay_run {r : Registry} (hr : r.names.Nodup) (d : Draws) (before after : List Use) :
    ((start r d).run before).events <+: ((start r d).run (before ++ after)).events ∧
      Journal.replay r.list ((start r d).run before).events = ((start r d).run before).registry.list := by
  constructor
  · obtain ⟨es, -, hevents⟩ := leads_run ((start r d).run before) after
    rw [run_append, hevents]
    exact List.prefix_append _ _
  · obtain ⟨es, hevolves, hevents⟩ := leads_run (start r d) before
    have hes : ((start r d).run before).events = es := hevents
    rw [hes]
    exact hevolves.replay hr

/-- At every point of a run on a new registry, the log up to there, replayed on a listing without texts,
is the listing. A bulk text leaves an entry for each of its assignments that is carried out, in their
order, and none for the others; and an injection leaves none, whatever message it prints. -/
theorem log_is_journal (texts : List String) (r : Registry) (h : ofNames texts = .ok r) (d : Draws)
    (before after : List Use) (t : Trail) (ht : t = (start r d).run before) :
    t.events <+: ((start r d).run (before ++ after)).events ∧
    Journal.replay (r.names.map fun n => (n, "")) t.events = t.registry.list ∧
    (∀ body, (t.registry.assign body).events.filterMap Event.line? =
      (Assignment.parseMany body).filterMap (carriedOut? r.names)) ∧
    (∀ n d', (t.registry.inject n d').events.filterMap Event.line? = [] ∧
      (t.registry.injectBlocking n d').events.filterMap Event.line? = []) ∧
    (∀ n message, (Event.printed n message).line? = none) := by
  obtain ⟨hfresh, -⟩ := ofNames_spec h
  obtain ⟨hgrown, hlist⟩ := replay_run hfresh.nodup d before after
  obtain ⟨es, hevolves, -⟩ := leads_run (start r d) before
  subst ht
  refine ⟨hgrown, ?_, fun body => ?_, fun n d' => ?_, fun n message => ?_⟩
  · rw [← hfresh.list_eq]
    exact hlist
  · have hnames : ((start r d).run before).registry.names = r.names := hevolves.names
    rw [← hnames]
    exact entries_applyEntries _ _
  · rw [inject_eq, injectBlocking_eq]
    exact ⟨entries_enacted _ n _, entries_enacted _ n _⟩
  · exact Event.line?_of_not_isEntry (Event.not_isEntry_printed n message)

/-- Terms are set, refused, fired and removed, and a message that reads like an entry is printed. -/
def eventful : List Use :=
  [.activate "a=print(\"Failpoint disabled\");z=off;b=oops;junk;b=2*panic", .inject "a",
    .injectBlocking "b", .operate (.deactivate "b"), .operate (.set "b" " off")]

/-- What was printed is in the log, and does not count. -/
theorem log_is_journal_eventful :
    Event.printed "a" "Failpoint disabled" ∈ ((start twoNames (.constant .zero)).run eventful).events ∧
    Journal.replay [("a", ""), ("b", "")] ((start twoNames (.constant .zero)).run eventful).events =
      [("a", "print(\"Failpoint disabled\")"), ("b", " off")] := by
  have hnew : ofNames ["b", "a"] = .ok twoNames := by decide +kernel
  have hlist : ((start twoNames (.constant .zero)).run eventful).registry.list =
      [("a", "print(\"Failpoint disabled\")"), ("b", " off")] := by decide +kernel
  have hjournal := (log_is_journal ["b", "a"] twoNames hnew (.constant .zero) eventful [] _ rfl).2.1
  rw [hlist] at hjournal
  exact ⟨by decide +kernel, hjournal⟩

end Trail

end FaultInjection
