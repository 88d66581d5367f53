import FaultInjection.Proofs.Http.Atomicity
import FaultInjection.Proofs.Registry.Export
import FaultInjection.Proofs.Run

/-!
# The listing is unambiguous

The listing echoes the texts of terms as they stand, with line ends, equals signs and all. It can be read
in one way only, because the names are known beforehand: behind a name and its equals sign, the next equals
sign outside strings is the one behind the following name (`lines_injective`). This needs names without
quotes, and texts that are sealed against equals signs, as those of accepted terms are
(`entry_of_sound`). `listing_unambiguous` says it of any two states of one registry.
-/

namespace FaultInjection

open Text

namespace Text

variable {d : Char}

/-- Sealed texts in front of a delimiter are equal if what they begin is. -/
theorem Sealed.append_inj {as bs rest rest' : List Char} (ha : Sealed (· = d) as) (hb : Sealed (· = d) bs)
    (h : as ++ d :: rest = bs ++ d :: rest') : as = bs ∧ rest = rest' := by
  have hcut := cutFirst_of_sealed ha rest
  rw [h, cutFirst_of_sealed hb rest'] at hcut
  obtain ⟨hbs, hrest⟩ := Prod.mk.inj (Option.some.inj hcut)
  exact ⟨hbs.symm, hrest.symm⟩

end Text

namespace Registry

/-- A name and a text with one way to read them in a listing. -/
structure Legible (entry : String × String) : Prop where
  name : Sealed (· = '=') entry.1.toList
  text : Sealed (· = '=') entry.2.toList

/-- The line of an entry. -/
def line (entry : String × String) : List Char := entry.1.toList ++ '=' :: (entry.2.toList ++ ['\n'])

/-- Rows of legible entries with the same names have different lines, unless they are equal. -/
theorem lines_injective {as bs : List (String × String)} (hnames : as.map Prod.fst = bs.map Prod.fst)
    (ha : ∀ a ∈ as, Legible a) (hb : ∀ b ∈ bs, Legible b) (h : as.flatMap line = bs.flatMap line) :
    as = bs := by
  have hbreak : Sealed (· = '=') ['\n'] := sealed_of_forall (by simp)
  induction as generalizing bs with
  | nil => exact (List.map_eq_nil_iff.1 hnames.symm).symm
  | cons a as ih =>
    obtain ⟨b, bs, rfl⟩ := List.exists_cons_of_ne_nil (l := bs) (by rintro rfl; simp at hnames)
    obtain ⟨hname, hnames⟩ := List.cons.inj hnames
    obtain ⟨haHead, haTail⟩ := List.forall_mem_cons.1 ha
    obtain ⟨hbHead, hbTail⟩ := List.forall_mem_cons.1 hb
    have htexts : a.2.toList ++ '\n' :: as.flatMap line = b.2.toList ++ '\n' :: bs.flatMap line := by
      simpa [line, hname] using h
    have hlists : a.2.toList = b.2.toList ∧ as.flatMap line = bs.flatMap line := by
      cases as with
      | nil =>
        -- Nothing follows the last line in either row.
        obtain rfl : bs = [] := List.map_eq_nil_iff.1 hnames.symm
        exact ⟨List.append_cancel_right htexts, rfl⟩
      | cons a' as =>
        obtain ⟨b', bs, rfl⟩ := List.exists_cons_of_ne_nil (l := bs) (by rintro rfl; simp at hnames)
        have hname' : a'.1 = b'.1 := (List.cons.inj hnames).1
        -- The text, the line end and the next name reach up to the next equals sign that counts.
        have hleft := (haHead.text.append hbreak).append (haTail a' (by simp)).name
        have hright := (hbHead.text.append hbreak).append (hbTail b' (by simp)).name
        rw [← hname'] at hright
        have hcut : (a.2.toList ++ ['\n'] ++ a'.1.toList) ++ '=' :: (a'.2.toList ++ '\n' :: as.flatMap line) =
            (b.2.toList ++ ['\n'] ++ a'.1.toList) ++ '=' :: (b'.2.toList ++ '\n' :: bs.flatMap line) := by
          simpa [line, hname'] using htexts
        obtain ⟨htext, hrest⟩ := hleft.append_inj hright hcut
        refine ⟨by simpa using htext, ?_⟩
        simpa [line, hname'] using hrest
    have hhead : a = b := Prod.ext hname (String.toList_inj.1 hlists.1)
    rw [hhead, ih hnames haTail hbTail hlists.2]

/-! ## What a registry lists -/

variable {r r' : Registry}

theorem toList_listing (r : Registry) : (Http.listing r).toList = r.list.flatMap line := by
  rw [Http.listing]
  induction r.list with
  | nil => rfl
  | cons entry entries ih =>
    rw [List.map_cons, String.join_cons, String.toList_append, ih]
    simp [line]

/-- A sound failpoint whose name has no quote is legible. -/
theorem legible_of_sound {f : Failpoint} (hf : f.Sound) (hq : '"' ∉ f.name.text.toList) :
    Legible (f.name.text, f.termText) := by
  constructor
  · apply sealed_of_forall
    intro c hc
    constructor
    · rintro rfl
      exact hq hc
    · rintro rfl
      exact f.name.not_mem_of_isDelimiter (by decide) hc
  · unfold Failpoint.termText
    split
    · exact sealed_nil
    · next t ht =>
      have hchain := (chainText_of_parse (hf.installed t ht).1.read).2
      exact hchain.isSealed.mono fun c hc => by simp [hc]

theorem Sound.wellRead (h : r.Sound) : r.WellRead := by
  intro n t ht
  cases hf : r.find? n with
  | none => simp [installed?, hf] at ht
  | some f =>
    rw [installed?_of_find? hf] at ht
    exact ((h f (List.mem_of_find?_eq_some hf)).installed t ht).1.read

theorem installed?_of_list_eq (hn : r.names.Nodup) (hw : r.WellRead) (hw' : r'.WellRead)
    (h : r.list = r'.list) {n : String} {t : Term} (ht : r.installed? n = some t) :
    r'.installed? n = some t := by
  have hn' : r'.names.Nodup := by rwa [names_eq_map_list, ← h, ← names_eq_map_list]
  have hmem : ⟨n, t.source⟩ ∈ r.enabledEntries := (mem_enabledEntries hn hw).2 ⟨t, ht, rfl⟩
  rw [enabledEntries, h] at hmem
  obtain ⟨t', ht', hsource⟩ := (mem_enabledEntries hn' hw').1 hmem
  have hsame : t' = t := by
    have hread := hw' n t' ht'
    rw [hsource, hw n t ht] at hread
    exact (Except.ok.inj hread).symm
  rw [← hsame]
  exact ht'

/-- The same listing means the same terms. -/
theorem installed?_eq_of_list_eq (hn : r.names.Nodup) (hw : r.WellRead) (hw' : r'.WellRead)
    (h : r.list = r'.list) (n : String) : r.installed? n = r'.installed? n := by
  have hn' : r'.names.Nodup := by rwa [names_eq_map_list, ← h, ← names_eq_map_list]
  apply Option.ext
  intro t
  exact ⟨installed?_of_list_eq hn hw hw' h, installed?_of_list_eq hn' hw' hw h.symm⟩

end Registry

namespace Http

/-- A request for the listing. -/
structure Request.Lists (q : Request) : Prop where
  method : q.method = "GET"
  path : q.target.path = ['/']

/-- A request for the listing is answered with the listing. -/
theorem control_list {limit : Option Nat} {r : Registry} {d : Draws} {q : Request} (h : q.Lists)
    (hadmitted : q.Admitted limit) : (control limit r d q).Answers 200 (Utf8.bytes (listing r)) := by
  have hroute : ControlRoute.ofPath? q.target.path = some .list := by
    rw [h.path]
    decide
  rw [control_of_call hadmitted hroute (by simp [h.method, ControlRoute.methods]) rfl]
  exact Exchange.Answers.labelled ⟨_, rfl, rfl, rfl⟩ (by simp [h.method])

end Http

namespace Trail

open Registry Http

/-- What any uses of a new registry lead to is sound, and has the same names. -/
theorem sound_and_names_of_run {texts : List String} {r : Registry} (h : ofNames texts = .ok r) (d : Draws)
    (uses : List Use) : ((start r d).run uses).registry.Sound ∧
      ((start r d).run uses).registry.names = r.names := by
  obtain ⟨es, hevolves, -⟩ := leads_run (start r d) uses
  exact ⟨hevolves.sound (ofNames_spec h).1.sound, hevolves.names⟩

/-- Take a registry none of whose names has a quote, and any two states that it can reach. A request for
the listing is answered in both; and if the bodies of the answers are the same, byte for byte, then the
entries are, and the same term is installed under every name. -/
theorem listing_unambiguous (texts : List String) (r : Registry) (h : ofNames texts = .ok r)
    (hq : ∀ n ∈ texts, '"' ∉ n.toList) (d d' : Draws) (uses uses' : List Use) (s s' : Registry)
    (hs : s = ((start r d).run uses).registry) (hs' : s' = ((start r d').run uses').registry)
    (limit limit' : Option Nat) (e e' : Draws) (q q' : Request) (hlists : q.Lists) (hlists' : q'.Lists)
    (hadmitted : q.Admitted limit) (hadmitted' : q'.Admitted limit') :
    (control limit s e q).Answers 200 (Utf8.bytes (listing s)) ∧
    (control limit' s' e' q').Answers 200 (Utf8.bytes (listing s')) ∧
    (Utf8.bytes (listing s) = Utf8.bytes (listing s') →
      s.list = s'.list ∧ ∀ n, s.installed? n = s'.installed? n) := by
  refine ⟨control_list hlists hadmitted, control_list hlists' hadmitted', fun hbody => ?_⟩
  obtain ⟨hsound, hnames⟩ : s.Sound ∧ s.names = r.names := hs ▸ sound_and_names_of_run h d uses
  obtain ⟨hsound', hnames'⟩ : s'.Sound ∧ s'.names = r.names := hs' ▸ sound_and_names_of_run h d' uses'
  obtain ⟨hfresh, htexts⟩ := ofNames_spec h
  have hlegible : ∀ {s : Registry}, s.Sound → s.names = r.names → ∀ entry ∈ s.list, Legible entry := by
    intro s hsound hnames entry hentry
    obtain ⟨f, hf, rfl⟩ := List.mem_map.1 hentry
    have hmem : f.name.text ∈ s.names := List.mem_map_of_mem hf
    rw [hnames] at hmem
    exact legible_of_sound (hsound f hf) (hq _ (htexts.mem_iff.1 hmem))
  have hlines : s.list.flatMap line = s'.list.flatMap line := by
    rw [← toList_listing, ← toList_listing]
    have hdecoded := congrArg Utf8.decode? hbody
    rw [Utf8.decode?_bytes, Utf8.decode?_bytes] at hdecoded
    rw [Option.some.inj hdecoded]
  have hsame : s.list.map Prod.fst = s'.list.map Prod.fst := by
    rw [← names_eq_map_list, ← names_eq_map_list, hnames, hnames']
  have hlist := lines_injective hsame (hlegible hsound hnames) (hlegible hsound' hnames') hlines
  have hnodup : s.names.Nodup := hnames ▸ hfresh.nodup
  exact ⟨hlist, installed?_eq_of_list_eq hnodup hsound.wellRead hsound'.wellRead hlist⟩

/-- A term whose text holds what looks like the line of another failpoint. -/
def lineTerm : String := "print(\"\nb=off\n\")\n->off"

/-- A request for the listing. -/
def plainList : Request := ⟨"GET", ⟨['/'], none⟩, none, none, []⟩

/-- Two ways to the same listing: the second disables a failpoint in between, and takes a hit. -/
def listed : Registry := ((start twoNames (.constant .zero)).run [.operate (.set "a" lineTerm)]).registry

@[inherit_doc listed] def listedAgain : Registry :=
  ((start twoNames (.constant .zero)).run [.activate "a=off;b=off", .operate (.deactivate "b"),
    .operate (.set "a" lineTerm), .inject "a"]).registry

/-- The two listings are the same, for all that the term holds, and so are the terms. -/
theorem listing_unambiguous_lineTerm :
    (control none listed (.constant .zero) plainList).Answers 200
      (Utf8.bytes "a=print(\"\nb=off\n\")\n->off\nb=\n") ∧
    ∀ n, listed.installed? n = listedAgain.installed? n := by
  have hnew : ofNames ["b", "a"] = .ok twoNames := by decide +kernel
  have hlists : plainList.Lists := ⟨rfl, rfl⟩
  have hadmitted : plainList.Admitted none := ⟨fun _ hmost => by cases hmost⟩
  have hlisting : listing listed = "a=print(\"\nb=off\n\")\n->off\nb=\n" := by decide +kernel
  have hagain : listing listed = listing listedAgain := by decide +kernel
  obtain ⟨hanswer, -, hsame⟩ := listing_unambiguous ["b", "a"] twoNames hnew (by decide) (.constant .zero)
    (.constant .zero) _ _ listed listedAgain rfl rfl none none (.constant .zero) (.constant .zero)
    plainList plainList hlists hlists hadmitted hadmitted
  rw [hlisting] at hanswer
  exact ⟨hanswer, (hsame (congrArg Utf8.bytes hagain)).2⟩

end Trail

end FaultInjection
