import FaultInjection.Proofs.Assignment
import FaultInjection.Proofs.Http.Control
import FaultInjection.Proofs.Registry.Bulk

/-!
# A bulk text, whichever way it enters

A bulk text is assigned directly, activated from the configuration, given as pairs, or put on the bulk
route. `bulk_set_meaning` says what its entries come to (`BulkOutcome`), and that the other ways in
lead to the same registry and the same result; a response carries the result as its status and text.
-/

namespace FaultInjection

open Text

namespace Assignment

/-- Neither a quote nor a semicolon is a blank, so a blank text is one piece. -/
theorem parseMany_of_blank {body : String} (h : isBlankText body = true) : parseMany body = [] := by
  have hsealed : Sealed (· = ';') body.toList := by
    refine sealed_of_forall fun c hc => ?_
    have hblank : isBlank c = true := List.all_eq_true.1 h c hc
    constructor
    · rintro rfl
      exact absurd hblank (by decide)
    · rintro rfl
      exact absurd hblank (by decide)
  have hall : body.toList.all isBlank = true := h
  rw [parseMany, entries, pieces_of_sealedFrom hsealed, List.filter_singleton, hall]
  rfl

/-- An entry that is no assignment is reported as malformed, without the blanks around it. -/
theorem malformed_of_mem_parseMany {body : String} {e : RegistryError} (h : .error e ∈ parseMany body) :
    ∃ entry ∈ entries body, e = .malformedAssignment (String.ofList (trim entry)) := by
  obtain ⟨entry, hentry, he⟩ := List.mem_map.1 h
  refine ⟨entry, hentry, ?_⟩
  unfold ofEntry at he
  split at he
  · exact (Except.error.inj he).symm
  · cases he

end Assignment

namespace Registry

/-- What the entries of a bulk text come to: each failpoint is settled by the last entry that holds a
term for its name, and the result is the error of the first entry that is refused. -/
structure BulkOutcome (r : Registry) (entries : List (Except RegistryError Assignment)) (after : Registry)
    (result : Except RegistryError Unit) : Prop where
  settles : List.Forall₂ (Settles entries) r.failpoints after.failpoints
  ok_iff : result = .ok () ↔ ∀ entry ∈ entries, Accepted r.names entry
  error_iff : ∀ e, result = .error e ↔ FirstRefused r.names entries e

theorem bulkOutcome_applyEntries (r : Registry) (entries : List (Except RegistryError Assignment)) :
    BulkOutcome r entries (r.applyEntries entries).registry (r.applyEntries entries).result where
  settles := settles_applyEntries r entries
  ok_iff := result_applyEntries_eq_ok_iff r entries
  error_iff := result_applyEntries_eq_error_iff r entries

/-- A blank text has no entries, so leaving it out makes no difference. -/
theorem activate_eq_assign (r : Registry) (body : String) :
    (r.activate body).registry = (r.assign body).registry ∧
      (r.activate body).result = (r.assign body).result := by
  unfold activate
  by_cases hblank : isBlankText body = true
  · rw [if_pos hblank, assign, Assignment.parseMany_of_blank hblank]
    exact ⟨rfl, rfl⟩
  · rw [if_neg hblank]
    exact ⟨rfl, rfl⟩

end Registry

namespace Http

/-- The response to a bulk text: nothing, or the first error in a line. -/
def bulkResponse (q : Request) : Except RegistryError Unit → Response
  | .ok () => (Response.empty 204).identified q
  | .error e => (Response.text 400 ("fail to set failpoint: " ++ e.message ++ "\n")).identified q

variable {limit : Option Nat} {r : Registry} {d : Draws} {q : Request}

/-- A text that is put on the bulk route is assigned. -/
theorem control_bulk {text : String} (hmethod : q.method = "PUT")
    (hpath : q.target.path = "/failpoints".toList) (hbody : q.body = Utf8.bytes text) (hfits : q.Fits limit) :
    control limit r d q =
      ⟨.response (bulkResponse q (r.assign text).result),
        ⟨(r.assign text).registry, (r.assign text).events, [], d⟩⟩ := by
  have hroute : ControlRoute.ofPath? q.target.path = some .bulk := by
    rw [hpath]
    decide +kernel
  have hcall : ControlRoute.bulk.call? q.method = some .setMany := rfl
  have hdecode : Utf8.decode? q.body = some text := hbody ▸ Utf8.decode?_bytes text
  have hrun : ControlCall.setMany.run (Trail.start r d) limit q =
      changed (Trail.start r d) .setMany (r.assign text) := by
    rw [ControlCall.run, if_neg (by simp [hfits.exceedsRead]), putTerms, hdecode]
    rfl
  rw [control_of_call hfits.toAdmitted hroute (by simp [hmethod, ControlRoute.methods]) hcall, hrun, hmethod]
  unfold changed Exchange.mapResponse
  dsimp only
  cases (r.assign text).result <;> rfl

open Registry Assignment in
/-- What a bulk text means to a registry. Each failpoint stands at the start of the last term among the
entries for its name, also if a later entry for it was refused, and is untouched without such an entry;
the result is the error of the earliest entry that is malformed, unknown or no term. Activation, the
assignment of the pairs, and a request to the bulk route come to the same. -/
theorem bulk_set_meaning (r : Registry) (body : String) :
    BulkOutcome r (parseMany body) (r.assign body).registry (r.assign body).result ∧
    (∀ e, .error e ∈ parseMany body →
      ∃ entry ∈ entries body, e = .malformedAssignment (String.ofList (trim entry))) ∧
    (r.activate body).registry = (r.assign body).registry ∧
    (r.activate body).result = (r.assign body).result ∧
    (∀ pairs, parseMany body = pairs.map .ok → r.setMany pairs = r.assign body) ∧
    (∀ limit d (q : Request), q.method = "PUT" → q.target.path = "/failpoints".toList →
      q.body = Utf8.bytes body → q.Fits limit →
        (control limit r d q).answer = .response (bulkResponse q (r.assign body).result) ∧
        (control limit r d q).trail.registry = (r.assign body).registry) := by
  refine ⟨bulkOutcome_applyEntries r _, fun e => malformed_of_mem_parseMany, (activate_eq_assign r body).1,
    (activate_eq_assign r body).2, fun pairs hpairs => ?_, fun limit d q hmethod hpath hbody hfits => ?_⟩
  · rw [setMany, assign, hpairs]
  · rw [control_bulk hmethod hpath hbody hfits]
    exact ⟨rfl, rfl⟩

/-- A bulk request with an unknown name, a malformed entry and a text that is no term among its entries. -/
def mixedRequest : Request :=
  ⟨"PUT", ⟨"/failpoints".toList, none⟩, none, some 33, Utf8.bytes "a=2*print;z=off;junk;a=oops;b=off"⟩

/-- The unknown name is reported, and the entries for the known ones are carried out. -/
theorem bulk_set_mixedRequest :
    (control (some 64) twoNames (.constant .zero) mixedRequest).answer = .response ((Response.text 400
      "fail to set failpoint: failpoint: failpoint does not exist\n").identified mixedRequest) ∧
    (control (some 64) twoNames (.constant .zero) mixedRequest).trail.registry.list =
      [("a", "2*print"), ("b", "off")] := by
  have hfits : mixedRequest.Fits (some 64) := by
    refine ⟨⟨fun most hmost length hlength => ?_⟩, fun most hmost => ?_, by decide +kernel⟩
    · obtain rfl := Option.some.inj hmost
      obtain rfl := Option.some.inj hlength
      decide
    · obtain rfl := Option.some.inj hmost
      decide +kernel
  obtain ⟨hanswer, hregistry⟩ := (bulk_set_meaning twoNames "a=2*print;z=off;junk;a=oops;b=off").2.2.2.2.2
    (some 64) (.constant .zero) mixedRequest rfl rfl rfl hfits
  have hresult : (twoNames.assign "a=2*print;z=off;junk;a=oops;b=off").result = .error .notFound := by
    decide +kernel
  have hlist : (twoNames.assign "a=2*print;z=off;junk;a=oops;b=off").registry.list =
      [("a", "2*print"), ("b", "off")] := by decide +kernel
  rw [hanswer, hregistry, hresult]
  exact ⟨by decide +kernel, hlist⟩

end Http

end FaultInjection
