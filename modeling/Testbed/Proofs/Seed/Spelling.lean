import Mathlib.Data.List.Forall2
import Testbed.Proofs.Campaign.Upkeep

/-!
# How seeds are spelled

A seed is shown as thirty-two digits. Every text that differs from them in the case of letters
alone is read as the same seed, so a run can be repeated from the seed that it shows.

What is read as a seed is more than that. Two characters are a number, and a number may carry a
sign: a plus stands for a zero in the first place of a pair. That is all that is read beside
thirty-two digits, and a seed that was read from a plus is shown with a zero.

## Main definitions

* `Hex.IsDigit` — a digit in either case
* `Seed.InPairs` — digits in pairs, with a sign in the first place or without
* `Seed.echo` — the digit as which a character comes back
* `Seed.Recased` — the same text but for the case of letters

## Main results

* `Seed.parse_eq_ok_iff` — which texts are read as which seed
* `Seed.reads_digits_and_signs`, `Seed.sample_sign_is_read`
* `Seed.shown_seed_reads_back`
-/

namespace Testbed

/-! ### Digits -/

namespace Hex

/-- A digit in either case. -/
def IsDigit (c : Char) : Prop :=
  ('0' ≤ c ∧ c ≤ '9') ∨ ('a' ≤ c ∧ c ≤ 'f') ∨ ('A' ≤ c ∧ c ≤ 'F')

instance (c : Char) : Decidable (IsDigit c) :=
  inferInstanceAs (Decidable (_ ∨ _))

theorem exists_value? {c : Char} (h : IsDigit c) : ∃ value, value? c = some value := by
  unfold value?
  split
  · exact ⟨_, rfl⟩
  · split
    · exact ⟨_, rfl⟩
    · have hupper : 'A' ≤ c ∧ c ≤ 'F' := by simp_all [IsDigit]
      exact ⟨_, if_pos hupper⟩

theorem isDigit_of_value? {c : Char} {value : Nat} (h : value? c = some value) : IsDigit c := by
  unfold value? at h
  unfold IsDigit
  split at h
  · exact .inl ‹_›
  · split at h
    · exact .inr (.inl ‹_›)
    · split at h
      · exact .inr (.inr ‹_›)
      · simp at h

theorem toNat_lt_of_isDigit {c : Char} (h : IsDigit c) : c.toNat < 128 := by
  simp only [IsDigit, Char.le_def, UInt32.le_iff_toNat_le] at h
  change c.val.toNat < 128
  have h9 : '9'.val.toNat = 57 := rfl
  have hf : 'f'.val.toNat = 102 := rfl
  have hF : 'F'.val.toNat = 70 := rfl
  omega

theorem utf8Size_of_isDigit {c : Char} (h : IsDigit c) : c.utf8Size = 1 := by
  have hlt : c.val.toNat < 128 := toNat_lt_of_isDigit h
  rw [Char.utf8Size_eq_one_iff, UInt32.le_iff_toNat_le]
  exact Nat.le_of_lt_succ hlt

/-- A digit that is read has the value of the digit that is shown for it. -/
theorem of_value? {c : Char} {value : Nat} (h : value? c = some value) :
    value < 16 ∧ digit value = c.toLower := by
  have hall : ∀ n < 128, ∀ v ∈ value? (Char.ofNat n),
      v < 16 ∧ digit v = (Char.ofNat n).toLower := by decide
  have hc := hall c.toNat (toNat_lt_of_isDigit (isDigit_of_value? h))
  rw [Char.ofNat_toNat] at hc
  exact hc value h

theorem digit_injective {m n : Nat} (hm : m < 16) (hn : n < 16) (h : digit m = digit n) :
    m = n := by
  have hvalue : value? (digit m) = value? (digit n) := by rw [h]
  rw [value?_digit m hm, value?_digit n hn] at hvalue
  exact Option.some.inj hvalue

theorem ofByte_injective {byte byte' : UInt8} (h : ofByte byte = ofByte byte') :
    byte = byte' := by
  have hlt := byte.toNat_lt
  have hlt' := byte'.toNat_lt
  simp only [ofByte, List.cons.injEq, and_true] at h
  have hhigh := digit_injective (by omega) (by omega) h.1
  have hlow := digit_injective (by omega) (by omega) h.2
  rw [← UInt8.toNat_inj]
  omega

theorem charsOfBytes_cons (byte : UInt8) (bytes : List UInt8) :
    charsOfBytes (byte :: bytes) = ofByte byte ++ charsOfBytes bytes := rfl

theorem charsOfBytes_injective {bytes bytes' : List UInt8}
    (h : charsOfBytes bytes = charsOfBytes bytes') : bytes = bytes' := by
  induction bytes generalizing bytes' with
  | nil =>
    cases bytes' with
    | nil => rfl
    | cons byte' rest' => simp [charsOfBytes, ofByte] at h
  | cons byte rest ih =>
    cases bytes' with
    | nil => simp [charsOfBytes, ofByte] at h
    | cons byte' rest' =>
      rw [charsOfBytes_cons, charsOfBytes_cons] at h
      obtain ⟨hbyte, hrest⟩ := List.append_inj h rfl
      rw [ofByte_injective hbyte, ih hrest]

theorem exists_digit_of_mem_charsOfBytes {bytes : List UInt8} {c : Char}
    (h : c ∈ charsOfBytes bytes) : ∃ value < 16, c = digit value := by
  obtain ⟨byte, -, hc⟩ := List.mem_flatMap.mp h
  have hlt := byte.toNat_lt
  simp only [ofByte, List.mem_cons, List.not_mem_nil, or_false] at hc
  rcases hc with rfl | rfl
  · exact ⟨_, by omega, rfl⟩
  · exact ⟨_, by omega, rfl⟩

end Hex

namespace Seed

/-! ### Pairs -/

/-- The digit as which a character comes back: a letter in lower case, and a sign as a zero. -/
def echo (c : Char) : Char :=
  if c = '+' then '0' else c.toLower

theorem echo_of_ne {c : Char} (h : c ≠ '+') : echo c = c.toLower :=
  if_neg h

theorem ne_plus_of_isDigit {c : Char} (h : Hex.IsDigit c) : c ≠ '+' := by
  rintro rfl
  exact absurd h (by decide)

/-- Digits in pairs, the first of which may be a sign. -/
def InPairs (chars : List Char) : Prop :=
  chars.length % 2 = 0 ∧
    ∀ i (h : i < chars.length), Hex.IsDigit chars[i] ∨ (chars[i] = '+' ∧ i % 2 = 0)

theorem inPairs_nil : InPairs [] :=
  ⟨rfl, fun _ h => absurd h (Nat.not_lt_zero _)⟩

theorem not_inPairs_singleton (c : Char) : ¬ InPairs [c] :=
  fun h => absurd h.1 (by simp)

theorem inPairs_cons_cons {first second : Char} {rest : List Char} :
    InPairs (first :: second :: rest) ↔
      (Hex.IsDigit first ∨ first = '+') ∧ Hex.IsDigit second ∧ InPairs rest := by
  constructor
  · rintro ⟨hlength, hchars⟩
    refine ⟨?_, ?_, ?_, ?_⟩
    · exact (hchars 0 (Nat.zero_lt_succ _)).imp_right And.left
    · exact (hchars 1 (by simp)).resolve_right fun h => absurd h.2 (by decide)
    · simp only [List.length_cons] at hlength
      omega
    · intro i hi
      have := hchars (i + 2) (by simpa using hi)
      simpa using this
  · rintro ⟨hfirst, hsecond, hlength, hchars⟩
    refine ⟨by simp only [List.length_cons]; omega, ?_⟩
    rintro (_ | _ | i) hi
    · simpa using hfirst
    · exact .inl hsecond
    · have hparity : (i + 1 + 1) % 2 = i % 2 := Nat.add_mod_right i 2
      rw [hparity]
      exact hchars i (by simpa using hi)

theorem inPairs_of_isDigit {chars : List Char} (hlength : chars.length % 2 = 0)
    (hchars : ∀ c ∈ chars, Hex.IsDigit c) : InPairs chars :=
  ⟨hlength, fun _ _ => .inl (hchars _ (List.getElem_mem _))⟩

theorem InPairs.isDigit_or {chars : List Char} (h : InPairs chars) {c : Char} (hc : c ∈ chars) :
    Hex.IsDigit c ∨ c = '+' := by
  obtain ⟨i, hi, rfl⟩ := List.getElem_of_mem hc
  exact (h.2 i hi).imp_right And.left

theorem InPairs.utf8Size_eq {chars : List Char} (h : InPairs chars) {c : Char} (hc : c ∈ chars) :
    c.utf8Size = 1 := by
  rcases h.isDigit_or hc with hdigit | rfl
  · exact Hex.utf8Size_of_isDigit hdigit
  · rfl

theorem byteLength_of_utf8Size {chars : List Char} (h : ∀ c ∈ chars, c.utf8Size = 1) :
    byteLength chars = chars.length := by
  induction chars with
  | nil => rfl
  | cons c rest ih =>
    obtain ⟨hc, hrest⟩ := List.forall_mem_cons.mp h
    rw [byteLength, hc, ih hrest, List.length_cons, Nat.add_comm]

theorem exists_pairValue? {first second : Char} (hfirst : Hex.IsDigit first ∨ first = '+')
    (hsecond : Hex.IsDigit second) : ∃ byte, pairValue? first second = some byte := by
  obtain ⟨low, hlow⟩ := Hex.exists_value? hsecond
  unfold pairValue?
  rw [hlow]
  rcases hfirst with hfirst | rfl
  · obtain ⟨high, hhigh⟩ := Hex.exists_value? hfirst
    simp [ne_plus_of_isDigit hfirst, hhigh]
  · simp

/-- A pair that is read comes back as the digits of its byte. -/
theorem of_pairValue? {first second : Char} {byte : UInt8}
    (h : pairValue? first second = some byte) :
    (Hex.IsDigit first ∨ first = '+') ∧ Hex.IsDigit second ∧
      [echo first, echo second] = Hex.ofByte byte := by
  unfold pairValue? at h
  split at h
  · simp at h
  · rename_i low hlow
    obtain ⟨hlt, hsecond⟩ := Hex.of_value? hlow
    have hdigit := Hex.isDigit_of_value? hlow
    have hecho : echo second = Hex.digit low := by
      rw [echo_of_ne (ne_plus_of_isDigit hdigit), hsecond]
    split at h
    · rename_i hplus
      obtain rfl : low.toUInt8 = byte := Option.some.inj h
      have hbyte : low.toUInt8.toNat = low := UInt8.toNat_ofNat_of_lt (by simp [UInt8.size]; omega)
      refine ⟨.inr hplus, hdigit, ?_⟩
      rw [Hex.ofByte, hbyte, Nat.div_eq_of_lt hlt, Nat.mod_eq_of_lt hlt, hecho, hplus]
      rfl
    · rename_i hplus
      obtain ⟨high, hhigh, rfl⟩ := Option.map_eq_some_iff.mp h
      obtain ⟨hlt', hfirst⟩ := Hex.of_value? hhigh
      have hbyte : (16 * high + low).toUInt8.toNat = 16 * high + low :=
        UInt8.toNat_ofNat_of_lt (by simp [UInt8.size]; omega)
      refine ⟨.inl (Hex.isDigit_of_value? hhigh), hdigit, ?_⟩
      rw [Hex.ofByte, hbyte, echo_of_ne hplus, hecho, ← hfirst,
        show (16 * high + low) / 16 = high by omega, show (16 * high + low) % 16 = low by omega]

theorem inPairs_of_readPairs {chars : List Char} {bytes : List UInt8}
    (h : readPairs chars = .ok bytes) :
    InPairs chars ∧ chars.map echo = Hex.charsOfBytes bytes := by
  fun_induction readPairs chars generalizing bytes with
  | case1 =>
    obtain rfl : [] = bytes := Except.ok.inj h
    exact ⟨inPairs_nil, rfl⟩
  | case8 first _ _ second rest _ byte hpair read hread ih =>
    obtain rfl : byte :: read = bytes := Except.ok.inj h
    obtain ⟨hrest, hechoes⟩ := ih hread
    obtain ⟨hfirst, hsecond, hecho⟩ := of_pairValue? hpair
    refine ⟨inPairs_cons_cons.mpr ⟨hfirst, hsecond, hrest⟩, ?_⟩
    rw [Hex.charsOfBytes_cons, ← hecho, ← hechoes]
    rfl
  | _ => simp at h

theorem exists_readPairs : ∀ {chars : List Char}, InPairs chars →
    ∃ bytes, readPairs chars = .ok bytes
  | [], _ => ⟨[], rfl⟩
  | [c], h => absurd h (not_inPairs_singleton c)
  | first :: second :: rest, h => by
    have hsize (c : Char) (hc : c ∈ first :: second :: rest) : c.utf8Size = 1 := h.utf8Size_eq hc
    have hfirst₁ := hsize first (by simp)
    have hsecond₁ := hsize second (by simp)
    obtain ⟨hfirst, hsecond, hrest⟩ := inPairs_cons_cons.mp h
    obtain ⟨byte, hbyte⟩ := exists_pairValue? hfirst hsecond
    obtain ⟨bytes, hbytes⟩ := exists_readPairs hrest
    exact ⟨byte :: bytes, by simp [readPairs, hfirst₁, hsecond₁, hbyte, hbytes]⟩

/-! ### Texts -/

theorem toList_text (seed : Seed) : seed.text.toList = Hex.charsOfBytes seed.bytes :=
  String.toList_ofList

theorem length_toList_text (seed : Seed) : seed.text.toList.length = 32 := by
  rw [toList_text, Hex.length_charsOfBytes, seed.length_bytes]

theorem text_injective {seed seed' : Seed} (h : seed.text = seed'.text) : seed = seed' := by
  have hchars : Hex.charsOfBytes seed.bytes = Hex.charsOfBytes seed'.bytes := by
    rw [← toList_text, ← toList_text, h]
  cases seed
  cases seed'
  simpa using Hex.charsOfBytes_injective hchars

theorem exists_parse {text : String} (hlength : text.toList.length = 32)
    (hpairs : InPairs text.toList) : ∃ seed, parse text = .ok seed := by
  obtain ⟨bytes, hbytes⟩ := exists_readPairs hpairs
  have hbyteLength : byteLength text.toList = 32 := by
    rw [byteLength_of_utf8Size fun _ => hpairs.utf8Size_eq, hlength]
  unfold parse
  rw [dif_neg (not_not.mpr hbyteLength)]
  split
  · rename_i hread
    simp [hread] at hbytes
  · exact ⟨_, rfl⟩

theorem of_parse {text : String} {seed : Seed} (h : parse text = .ok seed) :
    text.toList.length = 32 ∧ InPairs text.toList ∧ text.map echo = seed.text := by
  unfold parse at h
  split at h
  · simp at h
  · rename_i hbyteLength
    split at h
    · simp at h
    · rename_i bytes hread
      obtain rfl := Except.ok.inj h
      obtain ⟨hpairs, hechoes⟩ := inPairs_of_readPairs hread
      refine ⟨?_, hpairs, ?_⟩
      · rw [← byteLength_of_utf8Size fun _ => hpairs.utf8Size_eq]
        exact not_not.mp hbyteLength
      · rw [← String.toList_inj, String.toList_map, hechoes, toList_text]

/-- A text is read as a seed just if it is made of sixteen pairs and comes back as the text of that
seed. -/
theorem parse_eq_ok_iff {text : String} {seed : Seed} :
    parse text = .ok seed ↔
      text.toList.length = 32 ∧ InPairs text.toList ∧ text.map echo = seed.text := by
  refine ⟨of_parse, ?_⟩
  rintro ⟨hlength, hpairs, hecho⟩
  obtain ⟨seed', hseed'⟩ := exists_parse hlength hpairs
  rw [hseed', text_injective ((of_parse hseed').2.2.symm.trans hecho)]

theorem ofText_eq_ok_iff {text : String} {seed : Seed} :
    ofText text = .ok seed ↔ parse text = .ok seed := by
  unfold ofText
  cases parse text <;> simp [Except.mapError]

theorem ofText_of_not_read {text : String} (h : ∀ seed, parse text ≠ .ok seed) :
    ∃ error : ParseError, ofText text = .error (.invalidSeed text error.reason) := by
  cases hparse : parse text with
  | ok seed => exact absurd hparse (h seed)
  | error error => exact ⟨error, by rw [ofText, hparse]; rfl⟩

/-- **Digits, and signs in their stead.** A text is read as a seed just if it is made of thirty-two
characters in pairs: digits in either case, the first of a pair perhaps a plus. It comes back in
lower case, with a zero for a plus. Every other text is refused by a fault that carries it. So of
the texts without a plus these are the ones with thirty-two digits, and no others. -/
theorem reads_digits_and_signs (text : String) :
    let digits := text.toList.length = 32 ∧ ∀ c ∈ text.toList, Hex.IsDigit c
    let pairs := text.toList.length = 32 ∧ InPairs text.toList
    ((∃ seed, ofText text = .ok seed) ↔ pairs) ∧
      (∀ seed, ofText text = .ok seed → seed.text = text.map echo) ∧
      (¬ pairs → ∃ error : ParseError, ofText text = .error (.invalidSeed text error.reason)) ∧
      (digits ↔ pairs ∧ '+' ∉ text.toList) ∧
      ('+' ∉ text.toList → text.map echo = text.toLower) := by
  intro digits pairs
  have hread : (∃ seed, parse text = .ok seed) ↔ pairs := by
    constructor
    · rintro ⟨seed, hseed⟩
      exact ⟨(of_parse hseed).1, (of_parse hseed).2.1⟩
    · rintro ⟨hlength, hpairs⟩
      exact exists_parse hlength hpairs
  simp only [ofText_eq_ok_iff]
  refine ⟨hread, fun seed hseed => (of_parse hseed).2.2.symm, ?_, ?_, ?_⟩
  · intro hpairs
    exact ofText_of_not_read fun seed hseed => hpairs (hread.mp ⟨seed, hseed⟩)
  · constructor
    · rintro ⟨hlength, hdigits⟩
      refine ⟨⟨hlength, inPairs_of_isDigit (by rw [hlength]) hdigits⟩, ?_⟩
      exact fun hplus => ne_plus_of_isDigit (hdigits _ hplus) rfl
    · rintro ⟨⟨hlength, hpairs⟩, hplus⟩
      refine ⟨hlength, fun c hc => (hpairs.isDigit_or hc).resolve_right ?_⟩
      rintro rfl
      exact hplus hc
  · intro hplus
    have hlower : text.toLower = text.map Char.toLower := rfl
    rw [hlower, ← String.toList_inj, String.toList_map, String.toList_map]
    refine List.map_congr_left fun c hc => echo_of_ne ?_
    rintro rfl
    exact hplus hc

/-- A text with a plus is read, though not all of its characters are digits. -/
theorem sample_sign_is_read :
    let text := "+f0102030405060708090a0b0c0d0e0f"
    (∃ seed, ofText text = .ok seed ∧ seed.text = "0f0102030405060708090a0b0c0d0e0f") ∧
      ¬ (text.toList.length = 32 ∧ ∀ c ∈ text.toList, Hex.IsDigit c) := by
  refine ⟨⟨⟨[15, 1, 2, 3, 4, 5, 6, 7, 8, 9, 10, 11, 12, 13, 14, 15], rfl⟩, ?_, ?_⟩, ?_⟩
  · decide +kernel
  · decide +kernel
  · rintro ⟨-, hdigits⟩
    have hsign : Hex.IsDigit '+' := hdigits '+' (by decide +kernel)
    exact absurd hsign (by decide)

/-! ### Shown seeds -/

/-- The same text, but for some letters in upper case. -/
def Recased (variant text : String) : Prop :=
  List.Forall₂ (fun c' c => c' = c ∨ c' = c.toUpper) variant.toList text.toList

theorem exists_digit_of_mem_text {seed : Seed} {c : Char} (h : c ∈ seed.text.toList) :
    ∃ value < 16, c = Hex.digit value :=
  Hex.exists_digit_of_mem_charsOfBytes (toList_text seed ▸ h)

/-- A shown digit, or the same in upper case, is read and comes back as it was shown. -/
theorem isDigit_of_shown {value : Nat} (hvalue : value < 16) {c : Char}
    (h : c = Hex.digit value ∨ c = (Hex.digit value).toUpper) :
    Hex.IsDigit c ∧ echo c = Hex.digit value := by
  have hall : ∀ value < 16, (Hex.IsDigit (Hex.digit value) ∧
        echo (Hex.digit value) = Hex.digit value) ∧
      Hex.IsDigit (Hex.digit value).toUpper ∧
        echo (Hex.digit value).toUpper = Hex.digit value := by decide
  rcases h with rfl | rfl
  · exact (hall value hvalue).1
  · exact (hall value hvalue).2

theorem isDigit_of_recased {variant chars : List Char}
    (h : List.Forall₂ (fun c' c => c' = c ∨ c' = c.toUpper) variant chars)
    (hchars : ∀ c ∈ chars, ∃ value < 16, c = Hex.digit value) :
    (∀ c ∈ variant, Hex.IsDigit c) ∧ variant.map echo = chars := by
  induction h with
  | nil => exact ⟨by simp, rfl⟩
  | cons hc _ ih =>
    obtain ⟨⟨value, hvalue, rfl⟩, hrest⟩ := List.forall_mem_cons.mp hchars
    obtain ⟨hdigit, hecho⟩ := isDigit_of_shown hvalue hc
    obtain ⟨hdigits, hechoes⟩ := ih hrest
    exact ⟨List.forall_mem_cons.mpr ⟨hdigit, hdigits⟩, by rw [List.map_cons, hecho, hechoes]⟩

theorem parse_of_recased {variant : String} {seed : Seed} (h : Recased variant seed.text) :
    parse variant = .ok seed := by
  obtain ⟨hdigits, hecho⟩ := isDigit_of_recased h fun _ => exists_digit_of_mem_text
  have hlength : variant.toList.length = 32 := h.length_eq.trans (length_toList_text seed)
  refine parse_eq_ok_iff.mpr ⟨hlength, inPairs_of_isDigit (by rw [hlength]) hdigits, ?_⟩
  rw [← String.toList_inj, String.toList_map, hecho]

theorem Recased.refl (text : String) : Recased text text :=
  List.forall₂_same.mpr fun _ _ => .inl rfl

/-- **A shown seed is read back.** It is shown as thirty-two digits in lower case, and these are
read as that seed, also with some letters in upper case; so no other seed is shown alike. And what
the first line of a campaign shows is read as the seed that the campaign has after any number of
testsets. -/
theorem shown_seed_reads_back (seed : Seed) :
    (seed.text.toList.length = 32 ∧ ∀ c ∈ seed.text.toList, c ∈ "0123456789abcdef".toList) ∧
      ofText seed.text = .ok seed ∧
      (∀ variant, Recased variant seed.text → ofText variant = .ok seed) ∧
      (∀ other : Seed, other.text = seed.text → other = seed) ∧
      ∀ {C W : Type} (platform : Platform C W) (config : Config) (launcher : Launcher C W)
        (reuseAllowed : Bool) (filter : Option String) (orders : List (Order C W)) (world : W),
        let started := Campaign.start config launcher seed reuseAllowed filter
        let campaign := (Campaign.after platform orders (started.1, world)).1
        started.2 = Output.line ("Using seed " ++ seed.text) ∧
          ∀ shown, started.2 = Output.line ("Using seed " ++ shown) →
            ofText shown = .ok campaign.seed := by
  have hrecased (variant : String) (h : Recased variant seed.text) : ofText variant = .ok seed :=
    ofText_eq_ok_iff.mpr (parse_of_recased h)
  refine ⟨⟨length_toList_text seed, ?_⟩, hrecased _ (.refl _), hrecased,
    fun _ => text_injective, ?_⟩
  · have hall : ∀ value < 16, Hex.digit value ∈ "0123456789abcdef".toList := by decide
    intro c hc
    obtain ⟨value, hvalue, rfl⟩ := exists_digit_of_mem_text hc
    exact hall value hvalue
  · intro C W platform config launcher reuseAllowed filter orders world started campaign
    have hstarted : started.2 = Output.line ("Using seed " ++ seed.text) := rfl
    have hseed : campaign.seed = seed :=
      (Campaign.after_settings platform orders (started.1, world)).seed
    refine ⟨hstarted, fun shown hshown => ?_⟩
    have htext : seed.text = shown := by
      simpa [Output.line] using hstarted.symm.trans hshown
    rw [hseed, ← htext]
    exact hrecased _ (.refl _)

end Seed

end Testbed
