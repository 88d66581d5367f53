import FaultInjection.Proofs.Decimal.Numeral
import FaultInjection.Url.Parser

/-!
# Base addresses

A base address names a scheme of the web and a host, and perhaps a port and a final slash (`Base`). It is
read as these parts with the path of the root, whether the slash is there or not (`Base.parse_text`).
-/

namespace FaultInjection.Url

open Text

/-- Characters that end a host or an authority. -/
def isMark (c : Char) : Bool := "/\\?#@".toList.contains c

/-- The text of a host: a name, or an address in brackets. -/
inductive HostText : List Char → Prop where
  | plain {cs : List Char} : (∀ c ∈ cs, 0x20 < c.toNat ∧ isMark c = false ∧ c ≠ ':' ∧ c ≠ '[') → HostText cs
  | bracketed {cs : List Char} : (∀ c ∈ cs, 0x20 < c.toNat ∧ isMark c = false ∧ c ≠ ']') →
      HostText ('[' :: (cs ++ [']']))

/-- A base address as it is written. -/
structure Base where
  scheme : List Char
  host : List Char
  port : Option (List Char)
  slash : Bool
  web : scheme.map Scheme.lowered = "http".toList ∨ scheme.map Scheme.lowered = "https".toList
  hostText : HostText host
  hostRead : ∃ h, Host.parse host = .ok h
  portRead : ∀ ds ∈ port, ds = [] ∨ ∃ n < 65536, Decimal.natural? ds = some n

/-! ## Cutting -/

section Cutting

variable {test : Char → Bool} {cs rest : List Char}

theorem dropWhile_of_head (h : ∀ c ∈ cs.head?, test c = false) : cs.dropWhile test = cs := by
  cases cs with
  | nil => rfl
  | cons c cs => exact List.dropWhile_cons_of_neg (by simp [h c rfl])

theorem takeWhile_of_head (h : ∀ c ∈ cs.head?, test c = false) : cs.takeWhile test = [] := by
  cases cs with
  | nil => rfl
  | cons c cs => exact List.takeWhile_cons_of_neg (by simp [h c rfl])

theorem cutBefore_append (h : ∀ c ∈ cs, test c = false) (hrest : ∀ c ∈ rest.head?, test c = true) :
    cutBefore test (cs ++ rest) = (cs, rest) := by
  have hall : ∀ c ∈ cs, (! test c) = true := fun c hc => by simp [h c hc]
  have hstop : ∀ c ∈ rest.head?, (! test c) = false := fun c hc => by simp [hrest c hc]
  rw [cutBefore, List.takeWhile_append_of_pos hall, List.dropWhile_append_of_pos hall,
    takeWhile_of_head hstop, dropWhile_of_head hstop, List.append_nil]

theorem trimmed_of_forall (h : ∀ c ∈ cs, test c = false) : trimmed test cs = cs := by
  have hfront : cs.dropWhile test = cs := dropWhile_of_head fun c hc => h c (List.mem_of_mem_head? hc)
  have hback : cs.reverse.dropWhile test = cs.reverse :=
    dropWhile_of_head fun c hc => h c (List.mem_reverse.1 (List.mem_of_mem_head? hc))
  rw [trimmed, hfront, hback, List.reverse_reverse]

end Cutting

theorem isIgnored_of_class {test : Char → Bool} (hclass : ['\t', '\n', '\r'].any test = false) {c : Char}
    (h : test c = true) : isIgnored c = false := by
  rw [Bool.eq_false_iff]
  intro hignored
  have hmem : c ∈ ['\t', '\n', '\r'] := by
    unfold isIgnored at hignored
    simpa only [Bool.or_eq_true, beq_iff_eq, or_assoc, List.mem_cons, List.not_mem_nil, or_false] using hignored
  exact List.any_eq_false.1 hclass c hmem h

/-- A class of characters without tabs and line ends: nothing in a text of them is ignored. -/
theorem significant_of_class {test : Char → Bool} {cs : List Char} (h : ∀ c ∈ cs, test c = true)
    (hclass : ['\t', '\n', '\r'].any test = false) : significant cs = cs := by
  apply List.filter_eq_self.2
  intro c hc
  simp [isIgnored_of_class hclass (h c hc)]

theorem isIgnored_of_visible {c : Char} (h : 0x20 < c.toNat) : isIgnored c = false := by
  have hclass : ['\t', '\n', '\r'].any (fun d => decide (0x20 < d.toNat)) = false := by decide
  exact isIgnored_of_class hclass (decide_eq_true h)

theorem visible_of_isDigit {c : Char} (h : Decimal.isDigit c = true) :
    0x20 < c.toNat ∧ isMark c = false := by
  constructor
  · have hlow := (Decimal.bounds_of_isDigit h).1
    omega
  · rw [isMark, Bool.eq_false_iff, Ne, List.contains_iff_mem]
    intro hmem
    have hnone : "/\\?#@".toList.any Decimal.isDigit = false := by decide
    exact List.any_eq_false.1 hnone c hmem h

theorem visible_of_isLetter {c : Char} (h : Scheme.isLetter c = true) : 0x20 < c.toNat := by
  simp only [Scheme.isLetter, Bool.or_eq_true, Bool.and_eq_true, decide_eq_true_eq, Char.le_def,
    UInt32.le_iff_toNat_le] at h
  rcases h with h | h
  · have hlow : 0x61 ≤ c.toNat := h.1
    omega
  · have hlow : 0x41 ≤ c.toNat := h.1
    omega

/-! ## Hosts -/

theorem cutHost_of_plain {cs rest : List Char} (h : ∀ c ∈ cs, c ≠ ':' ∧ c ≠ '[')
    (hrest : ∀ c ∈ rest.head?, c = ':') : cutHost false (cs ++ rest) = (cs, rest) := by
  induction cs with
  | nil =>
    cases rest with
    | nil => rfl
    | cons c rest =>
      obtain rfl := hrest c rfl
      rfl
  | cons c cs ih =>
    obtain ⟨⟨hcolon, hbracket⟩, htail⟩ := List.forall_mem_cons.1 h
    have hopen : (c == '[' || (false && c != ']')) = false := by simp [hbracket]
    rw [List.cons_append, cutHost, if_neg (by simp [hcolon]), hopen, ih htail]

theorem cutHost_in_brackets {cs rest : List Char} (h : ∀ c ∈ cs, c ≠ ']') :
    cutHost true (cs ++ ']' :: rest) = (cs ++ ']' :: (cutHost false rest).1, (cutHost false rest).2) := by
  induction cs with
  | nil => rfl
  | cons c cs ih =>
    obtain ⟨hclose, htail⟩ := List.forall_mem_cons.1 h
    have hopen : (c == '[' || (true && c != ']')) = true := by simp [hclose]
    rw [List.cons_append, cutHost, if_neg (by simp), hopen, ih htail]
    rfl

/-- The colon of a port is the first one outside brackets. -/
theorem HostText.cutHost_append {cs rest : List Char} (h : HostText cs) (hrest : ∀ c ∈ rest.head?, c = ':') :
    cutHost false (cs ++ rest) = (cs, rest) := by
  cases h with
  | plain h => exact cutHost_of_plain (fun c hc => (h c hc).2.2) hrest
  | @bracketed inner h =>
    have hbehind : cutHost false rest = ([], rest) := cutHost_of_plain (List.forall_mem_nil _) hrest
    have hsplit : '[' :: (inner ++ [']']) ++ rest = '[' :: (inner ++ ']' :: rest) := by simp
    have hopen : ('[' == '[' || (false && '[' != ']')) = true := rfl
    rw [hsplit, cutHost, if_neg (by simp), hopen, cutHost_in_brackets fun c hc => (h c hc).2.2, hbehind]

theorem HostText.visible {cs : List Char} (h : HostText cs) :
    ∀ c ∈ cs, 0x20 < c.toNat ∧ isMark c = false := by
  cases h with
  | plain h => exact fun c hc => ⟨(h c hc).1, (h c hc).2.1⟩
  | bracketed h =>
    intro c hc
    simp only [List.mem_cons, List.mem_append, List.not_mem_nil, or_false] at hc
    rcases hc with rfl | hc | rfl
    · decide
    · exact ⟨(h c hc).1, (h c hc).2.1⟩
    · decide

/-- A host that can be read is there. -/
theorem ne_nil_of_parse {cs : List Char} {h : Host} (hread : Host.parse cs = .ok h) : cs ≠ [] := by
  rintro rfl
  have hempty : Host.parse [] = .error .emptyHost := by decide +kernel
  rw [hempty] at hread
  cases hread

theorem isEmpty_of_parse {cs : List Char} {h : Host} (hread : Host.parse cs = .ok h) : h.isEmpty = false := by
  unfold Host.parse at hread
  split at hread
  · unfold Host.bracketed at hread
    split at hread
    · split at hread
      · cases hread
        rfl
      · cases hread
    · cases hread
  · split at hread
    · cases hread
    · cases hread
    · next domain hne _ =>
      split at hread
      · split at hread
        · cases hread
          rfl
        · cases hread
      · cases hread
        exact List.isEmpty_eq_false_iff.2 hne

/-! ## Schemes -/

theorem isLetter_of_lowered {c : Char} (h : Scheme.isLetter (Scheme.lowered c) = true) :
    Scheme.isLetter c = true := by
  unfold Scheme.lowered at h
  split at h
  · next hupper => simp [Scheme.isLetter, hupper]
  · exact h

/-- Letters in front of a colon are a scheme. -/
theorem take?_of_letters {cs : List Char} (hne : cs ≠ []) (h : ∀ c ∈ cs, Scheme.isLetter c = true)
    (rest : List Char) : Scheme.take? (cs ++ ':' :: rest) = some (cs.map Scheme.lowered, rest) := by
  have hchar : ∀ c ∈ cs, (Scheme.isChar c || isIgnored c) = true := fun c hc => by
    simp [Scheme.isChar, h c hc]
  have hname : (':' :: rest).takeWhile (fun c => Scheme.isChar c || isIgnored c) = [] := rfl
  have hrest : (':' :: rest).dropWhile (fun c => Scheme.isChar c || isIgnored c) = ':' :: rest := rfl
  have hvisible : significant cs = cs := significant_of_class h (by decide)
  have hhead : cs.head?.any Scheme.isLetter = true := by
    cases cs with
    | nil => exact absurd rfl hne
    | cons c cs => exact h c (by simp)
  unfold Scheme.take?
  dsimp only
  rw [List.takeWhile_append_of_pos hchar, List.dropWhile_append_of_pos hchar, hname, hrest, List.append_nil,
    hvisible]
  exact if_pos hhead

namespace Base

variable (b : Base)

/-- The port behind its colon. -/
def portText : List Char :=
  match b.port with
  | none => []
  | some ds => ':' :: ds

/-- Host and port. -/
def authority : List Char := b.host ++ b.portText

/-- The final slash. -/
def slashText : List Char := if b.slash then ['/'] else []

/-- A base address as text. -/
def text : String := String.ofList (b.scheme ++ ':' :: ('/' :: '/' :: (b.authority ++ b.slashText)))

/-- The address of the root, on a host and a port. -/
def root (h : Host) (p : Option Nat) : Url :=
  ⟨b.scheme.map Scheme.lowered, some ⟨[], [], h, p⟩, false, [[]], none, none⟩

theorem scheme_letters : ∀ c ∈ b.scheme, Scheme.isLetter c = true := by
  intro c hc
  apply isLetter_of_lowered
  have hmem : Scheme.lowered c ∈ b.scheme.map Scheme.lowered := List.mem_map_of_mem hc
  have hplain : "http".toList.all Scheme.isLetter = true := by decide
  have hsecure : "https".toList.all Scheme.isLetter = true := by decide
  rcases b.web with h | h
  · exact List.all_eq_true.1 hplain _ (h ▸ hmem)
  · exact List.all_eq_true.1 hsecure _ (h ▸ hmem)

theorem scheme_ne_nil : b.scheme ≠ [] := by
  intro hnil
  have h := b.web
  simp [hnil] at h

theorem exists_kind : ∃ usual, Scheme.kind (b.scheme.map Scheme.lowered) = .network usual := by
  rcases b.web with h | h
  · exact ⟨80, h ▸ by decide⟩
  · exact ⟨443, h ▸ by decide⟩

theorem portText_head : ∀ c ∈ b.portText.head?, c = ':' := by
  intro c hc
  unfold portText at hc
  split at hc
  · cases hc
  · exact (Option.some.inj hc).symm

theorem portText_digits : Decimal.AllDigits (b.portText.drop 1) := by
  have hport := b.portRead
  unfold portText
  cases h : b.port with
  | none => exact List.forall_mem_nil _
  | some ds =>
    rcases hport ds h with rfl | ⟨n, -, hn⟩
    · exact List.forall_mem_nil _
    · exact (Decimal.natural?_eq_some_iff.1 hn).1

theorem exists_port (usual : Nat) : ∃ p, Url.port (.network usual) (b.portText.drop 1) = .ok p := by
  have hport := b.portRead
  unfold portText
  cases h : b.port with
  | none => exact ⟨none, rfl⟩
  | some ds =>
    rcases hport ds h with rfl | ⟨n, hlt, hn⟩
    · exact ⟨none, rfl⟩
    · have hne := (Decimal.natural?_eq_some_iff.1 hn).2.1
      refine ⟨if (SchemeKind.network usual).usualPort? = some n then none else some n, ?_⟩
      rw [Url.port, List.drop_one, List.tail_cons, if_neg (by simpa using hne), hn,
        Option.filter_some_pos (by simpa using hlt)]

theorem portText_visible : ∀ c ∈ b.portText, 0x20 < c.toNat ∧ isMark c = false := by
  intro c hc
  have hdigits := b.portText_digits
  unfold portText at hc hdigits
  cases h : b.port with
  | none => simp [h] at hc
  | some ds =>
    rw [h] at hc hdigits
    rcases List.mem_cons.1 hc with rfl | hc
    · decide
    · exact visible_of_isDigit (hdigits c hc)

theorem authority_visible : ∀ c ∈ b.authority, 0x20 < c.toNat ∧ isMark c = false :=
  List.forall_mem_append.2 ⟨b.hostText.visible, b.portText_visible⟩

/-! ### Reading -/

theorem userInfo_authority : userInfo b.authority = (([], []), b.authority) := by
  have hnone : b.authority.contains '@' = false := by
    rw [Bool.eq_false_iff, Ne, List.contains_iff_mem]
    intro hmem
    exact absurd (b.authority_visible _ hmem).2 (by decide)
  rw [userInfo, cutLastAt?, hnone]
  rfl

theorem cutBefore_portText : cutBefore (· == '\\') b.portText = (b.portText, []) := by
  have hnone : ∀ c ∈ b.portText, (c == '\\') = false := by
    intro c hc
    rw [beq_eq_false_iff_ne]
    rintro rfl
    exact absurd (b.portText_visible _ hc).2 (by decide)
  have hall : cutBefore (· == '\\') (b.portText ++ []) = (b.portText, []) := cutBefore_append hnone (by simp)
  rwa [List.append_nil] at hall

/-- The authority is host and port, and nothing of it is left over. -/
theorem parseAuthority_eq (usual : Nat) {h : Host} (hread : Host.parse b.host = .ok h) (rest : List Char) :
    ∃ p, parseAuthority (.network usual) b.authority rest = .ok (⟨[], [], h, p⟩, rest) := by
  obtain ⟨p, hp⟩ := b.exists_port usual
  refine ⟨p, ?_⟩
  have hhead : ¬ (b.authority.head? = some '@' ∧ b.authority.isEmpty = true ∧ (!rest.isEmpty) = true) := by
    rintro ⟨hat, -⟩
    exact absurd (b.authority_visible _ (List.mem_of_mem_head? hat)).2 (by decide)
  have hspecial : (SchemeKind.network usual).isSpecial = true := rfl
  have hnamed : ¬ ((SchemeKind.network usual).isSpecial = true ∧ b.host.isEmpty = true) :=
    fun hnil => ne_nil_of_parse hread (List.isEmpty_iff.1 hnil.2)
  have hthere : ¬ (h.isEmpty = true ∧ (!b.portText.isEmpty) = true) := by simp [isEmpty_of_parse hread]
  have hanonymous : ¬ (h.isEmpty = true ∧ (!(([] : List Char).isEmpty && ([] : List Char).isEmpty)) = true) := by
    simp
  have hcut : cutHost false b.authority = (b.host, b.portText) := b.hostText.cutHost_append b.portText_head
  unfold parseAuthority
  rw [b.userInfo_authority]
  dsimp only
  rw [if_neg hhead, hcut]
  dsimp only
  rw [if_neg hnamed, if_pos hspecial, hread]
  dsimp only [bind, Except.bind]
  rw [if_neg hthere, b.cutBefore_portText]
  dsimp only
  rw [hp]
  dsimp only
  rw [if_neg hanonymous]
  rfl

theorem cutTail_slashText (kind : SchemeKind) : cutTail kind b.slashText = (b.slashText, ⟨none, none⟩) := by
  unfold slashText
  cases b.slash <;> rfl

theorem path_slashText (usual : Nat) : (Path.parse (.network usual) b.slashText).path = [[]] := by
  unfold slashText
  cases b.slash <;> rfl

theorem endsAuthority_of_not_mark (kind : SchemeKind) {c : Char} (h : isMark c = false) :
    kind.endsAuthority c = false := by
  rw [isMark, Bool.eq_false_iff, Ne, List.contains_iff_mem] at h
  simp only [String.reduceToList, List.mem_cons, List.not_mem_nil, or_false, not_or] at h
  simp [SchemeKind.endsAuthority, SchemeKind.isSeparator, h]

/-- The slash ends the authority. -/
theorem cutBefore_slashText (usual : Nat) :
    cutBefore (SchemeKind.network usual).endsAuthority (b.authority ++ b.slashText) =
      (b.authority, b.slashText) := by
  apply cutBefore_append
  · exact fun c hc => endsAuthority_of_not_mark _ (b.authority_visible c hc).2
  · intro c hc
    unfold slashText at hc
    split at hc
    · obtain rfl := Option.some.inj hc
      rfl
    · cases hc

theorem text_visible : ∀ c ∈ b.text.toList, ¬ c.toNat ≤ 0x20 := by
  have hslash : ∀ c ∈ b.slashText, ¬ c.toNat ≤ 0x20 := by
    unfold slashText
    split
    · exact List.forall_mem_singleton.2 (by decide)
    · exact List.forall_mem_nil _
  intro c hc
  rw [text, String.toList_ofList] at hc
  simp only [List.mem_append, List.mem_cons] at hc
  rcases hc with hc | rfl | rfl | rfl | hc | hc
  · exact Nat.not_le.2 (visible_of_isLetter (b.scheme_letters c hc))
  · decide
  · decide
  · decide
  · exact Nat.not_le.2 (b.authority_visible c hc).1
  · exact hslash c hc

/-- The host begins neither with a separator nor with a character that is ignored. -/
theorem head_authority (usual : Nat) : ∀ c ∈ (b.authority ++ b.slashText).head?,
    ((SchemeKind.network usual).isSeparator c || isIgnored c) = false := by
  obtain ⟨h, hread⟩ := b.hostRead
  obtain ⟨c, cs, hhost⟩ := List.exists_cons_of_ne_nil (ne_nil_of_parse hread)
  obtain ⟨hlow, hmark⟩ := b.hostText.visible c (by simp [hhost])
  have hends := endsAuthority_of_not_mark (.network usual) hmark
  simp only [SchemeKind.endsAuthority, Bool.or_eq_false_iff] at hends
  intro d hd
  rw [authority, hhost] at hd
  obtain rfl := Option.some.inj hd
  simp [hends.1.1, isIgnored_of_visible hlow]

/-- A base address is read as its parts, with the path of the root. -/
theorem parse_text : ∃ h p, Host.parse b.host = .ok h ∧ Url.parse b.text = .ok (.url (b.root h p)) := by
  obtain ⟨h, hread⟩ := b.hostRead
  obtain ⟨usual, hkind⟩ := b.exists_kind
  obtain ⟨p, hauthority⟩ := b.parseAuthority_eq usual hread b.slashText
  refine ⟨h, p, hread, ?_⟩
  have htrim : trimmed (fun c => c.toNat ≤ 0x20) b.text.toList = b.text.toList :=
    trimmed_of_forall fun c hc => decide_eq_false (b.text_visible c hc)
  have hscheme := take?_of_letters b.scheme_ne_nil b.scheme_letters
    ('/' :: '/' :: (b.authority ++ b.slashText))
  -- The two slashes behind the scheme are skipped, and the host does not begin with another.
  have hseparators : ('/' :: '/' :: (b.authority ++ b.slashText)).dropWhile
      (fun c => (SchemeKind.network usual).isSeparator c || isIgnored c) = b.authority ++ b.slashText := by
    show (b.authority ++ b.slashText).dropWhile _ = _
    exact dropWhile_of_head (b.head_authority usual)
  have hshown : ∀ c ∈ b.authority, decide (0x20 < c.toNat) = true :=
    fun c hc => decide_eq_true (b.authority_visible c hc).1
  have hvisible : significant b.authority = b.authority := significant_of_class hshown (by decide)
  have hrest : parseFromAuthority (b.scheme.map Scheme.lowered) (b.authority ++ b.slashText) =
      .ok (b.root h p) := by
    rw [parseFromAuthority, hkind]
    dsimp only
    rw [b.cutBefore_slashText, hvisible, hauthority]
    dsimp only [bind, Except.bind]
    rw [b.cutTail_slashText, b.path_slashText]
    rfl
  rw [Url.parse, htrim, text, String.toList_ofList, hscheme]
  dsimp only
  rw [hkind]
  dsimp only
  rw [hseparators, hrest]
  rfl

end Base

end FaultInjection.Url
