import FaultInjection.Proofs.Http.Atomicity
import FaultInjection.Proofs.Http.BulkSet
import FaultInjection.Proofs.Registry.Export

/-!
# The names that a bulk text can address

A name may hold quotes, and the scan that cuts a bulk text knows of quotes only that they come in pairs. A
name whose strings are not all closed (`Balanced`) swallows the equals sign behind it. `parseMany_pair_iff`
says that two assignments are read as written exactly if both names are balanced;
`bulk_addresses_balanced` adds what a bulk text does to a registry then, and `unbalanced_name_lost` is a
name for which it fails.
-/

namespace FaultInjection

open Text

/-- Every string that is opened in the text is closed in it. -/
def Text.Balanced (s : String) : Prop := QuoteState.outside.scan s.toList = .outside

instance (s : String) : Decidable (Balanced s) := inferInstanceAs (Decidable (_ = _))

namespace Name

/-- A name is sealed against a delimiter if its quotes come in pairs. -/
theorem sealed_iff_balanced (n : Name) {d : Char} (hd : isDelimiter d = true) :
    Sealed (· = d) n.text.toList ↔ Balanced n.text := by
  apply sealedFrom_iff_scan
  rintro c hc rfl
  exact n.not_mem_of_isDelimiter hd hc

end Name

namespace Assignment

variable {n m : Name} {s s' : String}

/-- The entries of a row of characters, each read by itself. -/
def readEntries (cs : List Char) : List (Except RegistryError Assignment) :=
  ((pieces ';' .outside cs).filter fun entry => !entry.all isBlank).map ofEntry

theorem ofEntry_name (hn : Balanced n.text) (s : String) :
    ofEntry (n.text.toList ++ '=' :: s.toList) = .ok ⟨n.text, s⟩ := by
  rw [ofEntry, cutFirst_of_sealed ((n.sealed_iff_balanced (by decide)).2 hn)]
  dsimp only
  rw [trim_of_tight n.tight, String.ofList_toList, String.ofList_toList]

/-- What stands before the first equals sign is the name, if it is the name when it is trimmed. -/
theorem eq_name_of_trim {before rest rest' : List Char} (htrim : trim before = n.text.toList)
    (h : before ++ '=' :: rest = n.text.toList ++ '=' :: rest') : before = n.text.toList := by
  have hname : '=' ∉ n.text.toList := n.not_mem_of_isDelimiter (by decide)
  have hbefore : '=' ∉ before := fun hmem => hname (htrim ▸ mem_trim (by decide) hmem)
  rcases List.append_eq_append_iff.1 h with ⟨cs, hcs, hrest⟩ | ⟨cs, hcs, hrest⟩
  · cases cs with
    | nil => simpa using hcs.symm
    | cons c cs =>
      obtain ⟨rfl, -⟩ := List.cons.inj hrest
      exact absurd (hcs ▸ by simp) hname
  · cases cs with
    | nil => simpa using hcs
    | cons c cs =>
      obtain ⟨rfl, -⟩ := List.cons.inj hrest
      exact absurd (hcs ▸ by simp) hbefore

/-- An entry that begins as the written one and is read with its name. -/
theorem balanced_of_ofEntry {entry tail rest : List Char} {spec : String}
    (h : ofEntry entry = .ok ⟨n.text, spec⟩) (htail : entry ++ tail = n.text.toList ++ '=' :: rest) :
    Balanced n.text := by
  unfold ofEntry at h
  split at h
  · cases h
  · next before spec' hcut =>
    obtain ⟨rfl, hsealed⟩ := sealed_of_cutFirst hcut
    have hname : trim before = n.text.toList := by
      have hread : String.ofList (trim before) = n.text := congrArg Assignment.name (Except.ok.inj h)
      rw [← hread, String.toList_ofList]
    have hsplit : before ++ '=' :: (spec' ++ tail) = n.text.toList ++ '=' :: rest := by simpa using htail
    have hbefore := eq_name_of_trim hname hsplit
    rw [hbefore] at hsealed
    exact (n.sealed_iff_balanced (by decide)).1 hsealed

/-- If the first entry is read with the name that stands in front, the name is balanced. -/
theorem balanced_of_readEntries {rest : List Char} {spec : String}
    {later : List (Except RegistryError Assignment)}
    (h : readEntries (n.text.toList ++ '=' :: rest) = .ok ⟨n.text, spec⟩ :: later) : Balanced n.text := by
  obtain ⟨c, cs, hc, hblank, hne⟩ := n.exists_cons
  obtain ⟨p, ps, tail, hpieces, htail⟩ := exists_first_piece hne .outside (cs ++ '=' :: rest)
  have htext : n.text.toList ++ '=' :: rest = c :: (cs ++ '=' :: rest) := by rw [hc, List.cons_append]
  -- The first piece begins with the name, so it is not left out as a blank one.
  have hkept : (!(c :: p).all isBlank) = true := by simp [hblank]
  rw [readEntries, htext, hpieces, List.filter_cons_of_pos (a := c :: p) hkept, List.map_cons] at h
  have hsplit : (c :: p) ++ tail = n.text.toList ++ '=' :: rest := by rw [htext, htail, List.cons_append]
  exact balanced_of_ofEntry (List.cons.inj h).1 hsplit

theorem entry_sealed (hn : Balanced n.text) (hs : Sealed (· = ';') s.toList) :
    Sealed (· = ';') (n.text.toList ++ '=' :: s.toList) := by
  have heq : Sealed (· = ';') ['='] := sealed_of_forall (by simp)
  exact ((n.sealed_iff_balanced (by decide)).2 hn).append (heq.append hs)

theorem entry_not_blank (n : Name) (s : String) :
    (!(n.text.toList ++ '=' :: s.toList).all isBlank) = true := by
  have h := write_not_blank ⟨n.text, s⟩
  rwa [toList_write] at h

theorem readEntries_single (hn : Balanced n.text) (hs : Sealed (· = ';') s.toList) :
    readEntries (n.text.toList ++ '=' :: s.toList) = [.ok ⟨n.text, s⟩] := by
  rw [readEntries, pieces_of_sealedFrom (entry_sealed hn hs),
    List.filter_cons_of_pos (a := n.text.toList ++ '=' :: s.toList) (entry_not_blank n s), List.map_cons,
    ofEntry_name hn]
  rfl

/-- A balanced name in front is read, and what follows its semicolon is read by itself. -/
theorem readEntries_cons (hn : Balanced n.text) (hs : Sealed (· = ';') s.toList) (rest : List Char) :
    readEntries (n.text.toList ++ '=' :: s.toList ++ ';' :: rest) = .ok ⟨n.text, s⟩ :: readEntries rest := by
  rw [readEntries, pieces_append_of_sealedFrom (entry_sealed hn hs),
    List.filter_cons_of_pos (a := n.text.toList ++ '=' :: s.toList) (entry_not_blank n s), List.map_cons,
    ofEntry_name hn]
  rfl

/-- The bulk text of two assignments. -/
def pairText (n s m s' : String) : String := n ++ "=" ++ s ++ ";" ++ m ++ "=" ++ s'

theorem parseMany_pairText (n s m s' : String) : parseMany (pairText n s m s') =
    readEntries (n.toList ++ '=' :: s.toList ++ ';' :: (m.toList ++ '=' :: s'.toList)) := by
  have htext : (pairText n s m s').toList =
      n.toList ++ '=' :: s.toList ++ ';' :: (m.toList ++ '=' :: s'.toList) := by
    simp [pairText]
  rw [parseMany, entries, htext]
  rfl

/-- Two assignments are read as they were written exactly if both names are balanced. -/
theorem parseMany_pair_iff (hs : Sealed (· = ';') s.toList) (hs' : Sealed (· = ';') s'.toList) :
    parseMany (pairText n.text s m.text s') = [.ok ⟨n.text, s⟩, .ok ⟨m.text, s'⟩] ↔
      Balanced n.text ∧ Balanced m.text := by
  rw [parseMany_pairText]
  constructor
  · intro h
    rw [List.append_assoc, List.cons_append] at h
    have hn := balanced_of_readEntries h
    rw [← List.cons_append, ← List.append_assoc, readEntries_cons hn hs] at h
    exact ⟨hn, balanced_of_readEntries (List.cons.inj h).2⟩
  · rintro ⟨hn, hm⟩
    rw [readEntries_cons hn hs, readEntries_single hm hs']

end Assignment

namespace Registry

variable {r : Registry} {as : List Assignment}

/-- Among entries with distinct names, each installs its term. -/
theorem installed?_applyEntries (has : (as.map Assignment.name).Nodup) {a : Assignment} (ha : a ∈ as)
    (hn : a.name ∈ r.names) {t : Term} (ht : Term.parse a.spec = .ok t) :
    (r.applyEntries (as.map .ok)).registry.installed? a.name = some t := by
  obtain ⟨f, hf⟩ := exists_find? hn
  rw [installed?_of_find? (find?_applyEntries hf _), settling_of_mem has ha, setting_of_parse ht]
  rfl

/-- A failpoint that no entry names is left alone. -/
theorem find?_applyEntries_of_not_mem {n : String} (hn : n ∉ as.map Assignment.name) :
    (r.applyEntries (as.map .ok)).registry.find? n = r.find? n := by
  cases hf : r.find? n with
  | none =>
    rw [find?_eq_none_iff, names_applyEntries]
    exact find?_eq_none_iff.1 hf
  | some f => rw [find?_applyEntries hf, settling_of_not_mem hn]

/-- Two failpoints have taken over the terms, and the others are as they were. -/
structure BothInstalled (r after : Registry) (n m : String) (t t' : Term) : Prop where
  first : after.installed? n = some t
  second : after.installed? m = some t'
  others : ∀ k, k ≠ n → k ≠ m → after.find? k = r.find? k

/-- Two assignments for different names of the registry. -/
theorem applyEntries_pair {n m s s' : String} {t t' : Term} (hne : n ≠ m) (hn : n ∈ r.names)
    (hm : m ∈ r.names) (ht : Term.parse s = .ok t) (ht' : Term.parse s' = .ok t') :
    (r.applyEntries [.ok ⟨n, s⟩, .ok ⟨m, s'⟩]).result = .ok () ∧
      BothInstalled r (r.applyEntries [.ok ⟨n, s⟩, .ok ⟨m, s'⟩]).registry n m t t' := by
  have hnodup : ([⟨n, s⟩, ⟨m, s'⟩].map Assignment.name).Nodup := by simpa using hne
  have hnames : ∀ a ∈ [⟨n, s⟩, ⟨m, s'⟩], Assignment.name a ∈ r.names := by simp [hn, hm]
  have hterms : ∀ a ∈ [⟨n, s⟩, ⟨m, s'⟩], ∃ t, Term.parse (Assignment.spec a) = .ok t := by simp [ht, ht']
  refine ⟨result_applyEntries hnames hterms, ?_, ?_, fun k hkn hkm => ?_⟩
  · exact installed?_applyEntries hnodup (a := ⟨n, s⟩) (by simp) hn ht
  · exact installed?_applyEntries hnodup (a := ⟨m, s'⟩) (by simp) hm ht'
  · have hk : k ∉ [⟨n, s⟩, ⟨m, s'⟩].map Assignment.name := by simp [hkn, hkm]
    exact find?_applyEntries_of_not_mem hk

end Registry

open Assignment Registry Http in
/-- A bulk text addresses two different names exactly if both are balanced: then it is read as the two
assignments, and activation as well as a request to the bulk route installs both terms and nothing else. -/
theorem bulk_addresses_balanced (n m : Name) (hne : n.text ≠ m.text) (s s' : String) (t t' : Term)
    (ht : Term.parse s = .ok t) (ht' : Term.parse s' = .ok t') :
    (parseMany (pairText n.text s m.text s') = [.ok ⟨n.text, s⟩, .ok ⟨m.text, s'⟩] ↔
      Balanced n.text ∧ Balanced m.text) ∧
    (Balanced n.text → Balanced m.text → ∀ r : Registry, n.text ∈ r.names → m.text ∈ r.names →
      (r.activate (pairText n.text s m.text s')).result = .ok () ∧
      BothInstalled r (r.activate (pairText n.text s m.text s')).registry n.text m.text t t' ∧
      ∀ limit d (q : Request), q.method = "PUT" → q.target.path = "/failpoints".toList →
        q.body = Utf8.bytes (pairText n.text s m.text s') → q.Fits limit →
          (control limit r d q).answer = .response (bulkResponse q (.ok ())) ∧
          BothInstalled r (control limit r d q).trail.registry n.text m.text t t') := by
  have hs : Sealed (· = ';') s.toList := (chainText_of_parse ht).2.isSealed.mono (by simp +contextual)
  have hs' : Sealed (· = ';') s'.toList := (chainText_of_parse ht').2.isSealed.mono (by simp +contextual)
  refine ⟨parseMany_pair_iff hs hs', fun hn hm r hnr hmr => ?_⟩
  have hread := (parseMany_pair_iff hs hs').2 ⟨hn, hm⟩
  obtain ⟨hresult, hboth⟩ := applyEntries_pair hne hnr hmr ht ht'
  obtain ⟨hregistry, hactivate⟩ := activate_eq_assign r (pairText n.text s m.text s')
  have hassign : r.assign (pairText n.text s m.text s') =
      r.applyEntries [.ok ⟨n.text, s⟩, .ok ⟨m.text, s'⟩] := by rw [assign, hread]
  rw [hactivate, hregistry, hassign]
  refine ⟨hresult, hboth, fun limit d q hmethod hpath hbody hfits => ?_⟩
  rw [control_bulk hmethod hpath hbody hfits, hassign, hresult]
  exact ⟨rfl, hboth⟩

theorem Term.exists_of_isOk {s : String} (h : (Term.parse s).isOk = true) : ∃ t, Term.parse s = .ok t := by
  cases ht : Term.parse s with
  | error fault => simp [ht, Except.isOk, Except.toBool] at h
  | ok t => exact ⟨t, rfl⟩

/-- A name with a string in it. -/
def quotedName : Name := ⟨"a\"b\"", by decide⟩

/-- A name with a quote that is not closed. -/
def strayName : Name := ⟨"a\"b", by decide⟩

/-- A name without a quote. -/
def plainName : Name := ⟨"c", by decide⟩

/-- Two disabled failpoints. -/
def namedPair (n m : Name) : Registry := ⟨[.disabled n, .disabled m]⟩

/-- A string in a name does no harm. -/
theorem bulk_addresses_quotedName :
    Assignment.parseMany "a\"b\"=2*print;c=return(\";\")" =
      [.ok ⟨"a\"b\"", "2*print"⟩, .ok ⟨"c", "return(\";\")"⟩] ∧
    ((namedPair quotedName plainName).activate "a\"b\"=2*print;c=return(\";\")").result = .ok () := by
  obtain ⟨t, ht⟩ := Term.exists_of_isOk (s := "2*print") (by decide +kernel)
  obtain ⟨t', ht'⟩ := Term.exists_of_isOk (s := "return(\";\")") (by decide +kernel)
  have htext : Assignment.pairText quotedName.text "2*print" plainName.text "return(\";\")" =
      "a\"b\"=2*print;c=return(\";\")" := by decide +kernel
  obtain ⟨hread, hinstalls⟩ := bulk_addresses_balanced quotedName plainName (by decide) _ _ t t' ht ht'
  rw [htext] at hread hinstalls
  have hbalanced : Balanced quotedName.text ∧ Balanced plainName.text := by decide
  exact ⟨hread.2 hbalanced, (hinstalls hbalanced.1 hbalanced.2 _ (by decide) (by decide)).1⟩

/-- After a stray quote the whole text is one entry without an equals sign. Nothing is installed, so not
every two names can be addressed in a bulk text. -/
theorem unbalanced_name_lost :
    Assignment.parseMany "a\"b=off;c=off" = [.error (.malformedAssignment "a\"b=off;c=off")] ∧
    ((namedPair strayName plainName).activate "a\"b=off;c=off").registry = namedPair strayName plainName ∧
    ¬ ∀ (n m : Name) (s s' : String) (t t' : Term), n.text ≠ m.text → Term.parse s = .ok t →
      Term.parse s' = .ok t' → Assignment.parseMany (Assignment.pairText n.text s m.text s') =
        [.ok ⟨n.text, s⟩, .ok ⟨m.text, s'⟩] := by
  have hread : Assignment.parseMany "a\"b=off;c=off" = [.error (.malformedAssignment "a\"b=off;c=off")] := by
    decide +kernel
  have hregistry : ((namedPair strayName plainName).activate "a\"b=off;c=off").registry =
      namedPair strayName plainName := by
    rw [(Registry.activate_eq_assign _ _).1, Registry.assign, hread]
    rfl
  refine ⟨hread, hregistry, fun h => ?_⟩
  obtain ⟨t, ht⟩ := Term.exists_of_isOk (s := "off") (by decide +kernel)
  have htext : Assignment.pairText strayName.text "off" plainName.text "off" = "a\"b=off;c=off" := by
    decide +kernel
  have hpair := h strayName plainName "off" "off" t t (by decide) ht ht
  rw [htext, hread] at hpair
  simp at hpair

end FaultInjection
