import FaultInjection.CommandLine.Execution
import FaultInjection.Proofs.Http.Control
import FaultInjection.Proofs.Http.Target
import FaultInjection.Proofs.Name
import FaultInjection.Proofs.Url.Segment

/-!
# The requests of commands

A command is sent as one request to an address under a base. The path holds the name of the failpoint as
one segment that spells it (`path_of_single`, `path_of_count`), unless the name is left out as dots
(`path_of_dots`), and is received as it was sent (`build?_request`).
-/

namespace FaultInjection

open Text

namespace Command

open Http Url

/-- The failpoint that a command is about. -/
def subject? : Command → Option String
  | list | setMany _ => none
  | get n | count n | set n _ | deactivate n => some n

/-- The path of a command under the root of a plane with a usual port. -/
def path (usual : Nat) (c : Command) : Path :=
  (c.segments.map String.toList).foldl (Path.push (.network usual)) [[]]

/-- The text is not one of those that an address leaves out of its path. -/
def NotDots (s : String) : Prop := s ≠ "." ∧ s ≠ ".."

instance (s : String) : Decidable (NotDots s) := inferInstanceAs (Decidable (_ ∧ _))

variable {usual : Nat} {c : Command} {n : Name} {q : Request}

/-- The call of a command under a base address. -/
theorem call_eq (b : Base) (c : Command) : ∃ usual u, c.call b.text = .ok ⟨c.method, u, c.body⟩ ∧
    u.path = c.path usual ∧ u.query = none := by
  obtain ⟨h, p, -, hparse⟩ := b.parse_text
  obtain ⟨usual, hkind⟩ := b.exists_kind
  refine ⟨usual, (b.root h p).push (c.segments.map String.toList), ?_, ?_, rfl⟩
  · rw [call, endpoint, hparse]
    rfl
  · rw [Url.push, Url.kind, Base.root, hkind]
    rfl

/-! ## Paths -/

theorem significant_name (n : Name) : significant n.text.toList = n.text.toList := by
  have hshown : ∀ c ∈ n.text.toList, (! isBlank c) = true := fun c hc => by simp [n.not_isBlank hc]
  exact significant_of_class hshown (by decide)

theorem spells_encoded (s : String) : Spells (encoded s.toList) s where
  whole := slash_not_mem_encoded s.toList
  denotes := by rw [decodeSegment?, decode_encoded, Utf8.decode?_encode, String.ofList_toList]

theorem push_text {s : String} (h : NotDots s) (hvisible : significant s.toList = s.toList) (p : Path) :
    Path.push (.network usual) p s.toList = (if p = [[]] then [] else p) ++ [encoded s.toList] := by
  have hone : s.toList ≠ ".".toList := fun heq => h.1 (String.toList_inj.1 heq)
  have htwo : s.toList ≠ "..".toList := fun heq => h.2 (String.toList_inj.1 heq)
  exact Path.push_of_text hone htwo hvisible p

theorem push_dots {s : String} (h : ¬ NotDots s) (p : Path) :
    Path.push (.network usual) p s.toList = p := by
  apply Path.push_of_dots
  by_cases hone : s = "."
  · exact .inl (congrArg String.toList hone)
  · by_cases htwo : s = ".."
    · exact .inr (congrArg String.toList htwo)
    · exact absurd ⟨hone, htwo⟩ h

theorem path_of_single (hc : c.segments = [n.text]) (h : NotDots n.text) :
    c.path usual = [encoded n.text.toList] := by
  rw [path, hc, List.map_singleton, List.foldl_cons, List.foldl_nil, push_text h (significant_name n)]
  rfl

theorem path_of_count (h : NotDots n.text) :
    (count n.text).path usual = [encoded n.text.toList, "count".toList] := by
  have hroot : [encoded n.text.toList] ≠ [[]] :=
    fun heq => (spells_encoded n.text).ne.1 (List.singleton_inj.1 heq)
  have hword : encoded "count".toList = "count".toList := by decide
  rw [path, segments, List.map_cons, List.map_singleton, List.foldl_cons, List.foldl_cons, List.foldl_nil,
    push_text h (significant_name n), if_pos rfl, List.nil_append,
    push_text (by decide) (by decide), if_neg hroot, hword]
  rfl

/-- The dots are left out of the path. -/
theorem path_of_dots {s : String} {rest : List String} (hc : c.segments = s :: rest) (h : ¬ NotDots s) :
    c.path usual = (rest.map String.toList).foldl (Path.push (.network usual)) [[]] := by
  rw [path, hc, List.map_cons, List.foldl_cons, push_dots h]

/-! ## Sending -/

/-- What stands in an encoded text may stand in the path of a request. -/
theorem isPathChar_of_mem_encoded {cs : List Char} {ch : Char} (h : ch ∈ encoded cs) :
    Target.isPathChar ch = true := by
  rcases Percent.mem_encode h with ⟨-, hescape⟩ | rfl | ⟨k, hk, rfl⟩
  · have hascii : ch.toNat < 0x7F := by
      by_contra hhigh
      have hcontrol : Encoding.isControl ch = true := by simp [Encoding.isControl, Nat.not_lt.1 hhigh]
      simp [Encoding.specialSegment, Encoding.segment, Encoding.path, Encoding.fragment, hcontrol] at hescape
    have hall : ∀ k < 0x7F, Encoding.specialSegment (Char.ofNat k) = false →
        Target.isPathChar (Char.ofNat k) = true := by decide
    have hch := hall ch.toNat hascii
    rw [Char.ofNat_toNat] at hch
    exact hch hescape
  · decide
  · have hall : ∀ k < 16, Target.isPathChar (Percent.upperHex k) = true := by decide
    exact hall k hk

/-- A path of encoded texts, none of them longer than a name. -/
structure Sendable (p : Path) : Prop where
  ne_nil : p ≠ []
  short : ∀ s ∈ p, ∃ cs : List Char, s = encoded cs ∧ cs.length ≤ 256

namespace Sendable

variable {p : Path}

theorem root : Sendable [[]] := ⟨by simp, fun _ hs => ⟨[], List.mem_singleton.1 hs, by simp⟩⟩

theorem push (usual : Nat) (hp : Sendable p) {s : String} (hvisible : significant s.toList = s.toList)
    (hs : s.toList.length ≤ 256) : Sendable (Path.push (.network usual) p s.toList) ∧
      (Path.push (.network usual) p s.toList).length ≤ p.length + 1 := by
  by_cases hnamed : NotDots s
  · rw [push_text hnamed hvisible, List.length_append, List.length_singleton]
    refine ⟨⟨by simp, fun t ht => ?_⟩, ?_⟩
    · rcases List.mem_append.1 ht with ht | ht
      · split at ht
        · cases ht
        · exact hp.short t ht
      · exact ⟨s.toList, List.mem_singleton.1 ht, hs⟩
    · split
      · simp
      · omega
  · rw [push_dots hnamed]
    exact ⟨hp, by omega⟩

theorem pushAll (usual : Nat) (hp : Sendable p) {ss : List String}
    (hss : ∀ s ∈ ss, significant s.toList = s.toList ∧ s.toList.length ≤ 256) :
    Sendable ((ss.map String.toList).foldl (Path.push (.network usual)) p) ∧
      ((ss.map String.toList).foldl (Path.push (.network usual)) p).length ≤ p.length + ss.length := by
  induction ss generalizing p with
  | nil => exact ⟨hp, Nat.le_refl _⟩
  | cons s ss ih =>
    obtain ⟨⟨hvisible, hlength⟩, htail⟩ := List.forall_mem_cons.1 hss
    obtain ⟨hpush, hone⟩ := hp.push usual hvisible hlength
    obtain ⟨hall, hmore⟩ := ih hpush htail
    rw [List.map_cons, List.foldl_cons, List.length_cons]
    exact ⟨hall, by omega⟩

theorem isPathChar (hp : Sendable p) : ∀ ch ∈ p.text, Target.isPathChar ch = true := by
  intro ch hch
  obtain ⟨s, hs, hmem⟩ := List.mem_flatMap.1 hch
  obtain ⟨cs, rfl, -⟩ := hp.short s hs
  rcases List.mem_cons.1 hmem with rfl | hmem
  · decide
  · exact isPathChar_of_mem_encoded hmem

theorem length_text (hp : Sendable p) : p.text.length ≤ 3073 * p.length := by
  apply Path.length_text_le (k := 3072)
  intro s hs
  obtain ⟨cs, rfl, hcs⟩ := hp.short s hs
  have hlength := Percent.length_encode_le Encoding.specialSegment cs
  rw [encoded]
  omega

/-- A path of a few segments is read as it was written. -/
theorem parse?_text (hp : Sendable p) (hlength : p.length ≤ 3) :
    Target.parse? (String.ofList p.text) = some ⟨p.text, none⟩ := by
  have hsize := hp.length_text
  have hchars := hp.isPathChar
  obtain ⟨s, ss, rfl⟩ := List.exists_cons_of_ne_nil hp.ne_nil
  rw [Path.text_cons] at hsize hchars ⊢
  apply Target.parse?_of_path (List.forall_mem_cons.1 hchars).2
  rw [List.length_cons] at hsize
  show _ ≤ 65534
  omega

end Sendable

/-- The segments of a command are few, and none is longer than a name. -/
theorem short_segments (hc : ∀ s ∈ c.subject?, ∃ n : Name, n.text = s) : c.segments.length ≤ 2 ∧
    ∀ s ∈ c.segments, significant s.toList = s.toList ∧ s.toList.length ≤ 256 := by
  have hname : ∀ s ∈ c.subject?, significant s.toList = s.toList ∧ s.toList.length ≤ 256 := by
    intro s hs
    obtain ⟨n, rfl⟩ := hc s hs
    exact ⟨significant_name n, n.length_le⟩
  cases c with
  | list => exact ⟨by simp [segments], List.forall_mem_nil _⟩
  | setMany text => exact ⟨by simp [segments], List.forall_mem_singleton.2 (by decide)⟩
  | get s => exact ⟨by simp [segments], List.forall_mem_singleton.2 (hname s rfl)⟩
  | set s spec => exact ⟨by simp [segments], List.forall_mem_singleton.2 (hname s rfl)⟩
  | deactivate s => exact ⟨by simp [segments], List.forall_mem_singleton.2 (hname s rfl)⟩
  | count s =>
    exact ⟨by simp [segments], List.forall_mem_cons.2 ⟨hname s rfl, List.forall_mem_singleton.2 (by decide)⟩⟩

/-- The request of a command can be sent, and is received as it is. -/
theorem build?_request (hc : ∀ s ∈ c.subject?, ∃ n : Name, n.text = s) {u : Url}
    (hpath : u.path = c.path usual) (hquery : u.query = none) :
    Request.build? c.method (String.ofList u.path.text) none false (Utf8.bytes c.body) =
      some (Call.request ⟨c.method, u, c.body⟩) := by
  obtain ⟨hcount, hshort⟩ := short_segments hc
  obtain ⟨hsendable, hlength⟩ := Sendable.root.pushAll usual hshort
  have hparse : Target.parse? (String.ofList u.path.text) = some ⟨u.path.text, none⟩ := by
    rw [hpath]
    apply hsendable.parse?_text
    have hone : ([[]] : Path).length = 1 := rfl
    omega
  have hmethod : isMethod c.method = true := by
    have hall : ∀ m ∈ ["GET", "PUT", "DELETE"], isMethod m = true := by decide +kernel
    apply hall
    cases c <;> simp [method]
  rw [Request.build?, hparse]
  simp [hmethod, Call.request, hquery]

end Command

end FaultInjection
