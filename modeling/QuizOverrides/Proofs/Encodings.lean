import QuizOverrides.Proofs.PreviewEffect

set_option autoImplicit false

/-!
# The encoding of an upload

UTF-8 and the two forms of UTF-16 can write every text, with a byte-order mark before it or
without. Reading undoes writing: bytes that write a text are read as this text, and bytes that write
none are refused. Hence it makes no difference to a preview in which of these ways its upload has
been written.

## Main definitions

* `QuizOverrides.Encoding.unicode` — the encodings that can write every text.
* `QuizOverrides.Encoding.BeginsWithMark` — a text begins with a byte-order mark.
* `QuizOverrides.Encoding.Writes` — bytes write a text, after a byte-order mark or without.

## Main results

* `QuizOverrides.Text.ofUnits?_eq_some` — code units spell the text that they are the units of.
* `QuizOverrides.Encoding.unitsOfBytes?_eq_some` — bytes are grouped into the units that they split.
* `QuizOverrides.Encoding.decodeUpload_writes` — uploads are decoded if they write a text.
* `QuizOverrides.ImportService.preview_of_writes` — previews of all ways to write a text.
-/

namespace QuizOverrides

/-! ### Code units -/

namespace Text

/-- The number of a character is not one of a surrogate. -/
lemma toNat_bounds (c : Char) : c.toNat < 0xD800 ∨ 0xDFFF < c.toNat ∧ c.toNat < 0x110000 := by
  rcases c.valid with h | ⟨h, h'⟩
  · exact .inl h
  · exact .inr ⟨h, h'⟩

/-- Any other number is that of a character. -/
lemma toNat_ofNat {n : Nat} (h : n < 0xD800 ∨ 0xDFFF < n ∧ n < 0x110000) :
    (Char.ofNat n).toNat = n := by
  rw [Char.ofNat, dif_pos h]
  rfl

/-- A unit that is no surrogate is that of the character of this number. -/
lemma unitsOf_ofNat {u : Nat} (h : u < 0xD800 ∨ 0xDFFF < u) (hunit : u < 0x10000) :
    unitsOf (Char.ofNat u) = [u] := by
  rw [unitsOf, toNat_ofNat (by omega), if_pos hunit]

/-- A high surrogate and a low one are the units of a character above the basic plane. -/
lemma unitsOf_pair {high low : Nat} (hhigh : high < 0x400) (hlow : low < 0x400) :
    unitsOf (Char.ofNat (0x10000 + high * 0x400 + low)) = [0xD800 + high, 0xDC00 + low] := by
  rw [unitsOf, toNat_ofNat (by omega), if_neg (by omega)]
  simp only [List.cons.injEq, and_true]
  omega

/-- Units take two bytes. -/
lemma lt_of_mem_units {s : String} {u : Nat} (h : u ∈ units s) : u < 0x10000 := by
  obtain ⟨c, -, hu⟩ := List.mem_flatMap.mp h
  have hbounds := toNat_bounds c
  unfold unitsOf at hu
  split_ifs at hu with hbasic
  · rwa [List.mem_singleton.mp hu]
  · simp only [List.mem_cons, List.not_mem_nil, or_false] at hu
    omega

/-- A unit that is no surrogate is read as a character of its own. -/
lemma charsOfUnits?_cons {u : Nat} (h : u < 0xD800 ∨ 0xDFFF < u) (us : List Nat) :
    charsOfUnits? (u :: us) = (charsOfUnits? us).map (Char.ofNat u :: ·) := by
  cases us with
  | nil => simp [charsOfUnits?, h]
  | cons v rest => simp [charsOfUnits?, h]

/-- A high surrogate and a low one are read as one character. -/
lemma charsOfUnits?_pair {high low : Nat} (hhigh : high < 0x400) (hlow : low < 0x400)
    (us : List Nat) :
    charsOfUnits? ((0xD800 + high) :: (0xDC00 + low) :: us) =
      (charsOfUnits? us).map (Char.ofNat (0x10000 + high * 0x400 + low) :: ·) := by
  rw [charsOfUnits?, if_neg (by simp only [Bool.or_eq_true, decide_eq_true_eq]; omega),
    if_pos (by simp only [Bool.and_eq_true, decide_eq_true_eq]; omega),
    Nat.add_sub_cancel_left, Nat.add_sub_cancel_left]

/-- The units of a character are read as the character. -/
lemma charsOfUnits?_unitsOf_append (c : Char) (us : List Nat) :
    charsOfUnits? (unitsOf c ++ us) = (charsOfUnits? us).map (c :: ·) := by
  have hbounds := toNat_bounds c
  unfold unitsOf
  split_ifs with hbasic
  · rw [List.singleton_append, charsOfUnits?_cons (by omega), Char.ofNat_toNat]
  · have hnumber : 0x10000 + (c.toNat - 0x10000) / 0x400 * 0x400 + (c.toNat - 0x10000) % 0x400 =
        c.toNat := by omega
    rw [List.cons_append, List.singleton_append, charsOfUnits?_pair (by omega) (by omega), hnumber,
      Char.ofNat_toNat]

/-- The units of characters are read as these characters. -/
lemma charsOfUnits?_flatMap (cs : List Char) : charsOfUnits? (cs.flatMap unitsOf) = some cs := by
  induction cs with
  | nil => rfl
  | cons c cs ih => rw [List.flatMap_cons, charsOfUnits?_unitsOf_append, ih, Option.map_some]

/-- Units that are read are the units of the characters that they are read as. -/
lemma flatMap_of_charsOfUnits? {us : List Nat} {cs : List Char} (h : charsOfUnits? us = some cs)
    (hunits : ∀ u ∈ us, u < 0x10000) : cs.flatMap unitsOf = us := by
  fun_induction charsOfUnits? us generalizing cs with
  | case1 =>
    obtain rfl := Option.some.inj h
    rfl
  | case2 u hu =>
    simp only [Bool.or_eq_true, decide_eq_true_eq] at hu
    obtain rfl := Option.some.inj h
    rw [List.flatMap_singleton, unitsOf_ofNat hu (hunits u List.mem_cons_self)]
  | case3 u hu => nomatch h
  | case4 u v rest hu ih =>
    simp only [Bool.or_eq_true, decide_eq_true_eq] at hu
    obtain ⟨cs, hcs, rfl⟩ := Option.map_eq_some_iff.mp h
    rw [List.flatMap_cons, unitsOf_ofNat hu (hunits u List.mem_cons_self),
      ih hcs fun w hw => hunits w (List.mem_cons_of_mem _ hw), List.singleton_append]
  | case5 u v rest hu hpair ih =>
    simp only [Bool.or_eq_true, decide_eq_true_eq, not_or, Nat.not_lt] at hu
    simp only [Bool.and_eq_true, decide_eq_true_eq] at hpair
    obtain ⟨cs, hcs, rfl⟩ := Option.map_eq_some_iff.mp h
    obtain ⟨high, rfl⟩ := Nat.exists_eq_add_of_le hu.1
    obtain ⟨low, rfl⟩ := Nat.exists_eq_add_of_le hpair.1.2
    rw [Nat.add_sub_cancel_left, Nat.add_sub_cancel_left, List.flatMap_cons,
      unitsOf_pair (by omega) (by omega),
      ih hcs fun w hw => hunits w (List.mem_cons_of_mem _ (List.mem_cons_of_mem _ hw)),
      List.cons_append, List.singleton_append]
  | case6 u v rest hu hpair => nomatch h

/-- **Units spell a text** exactly if they are its units. -/
lemma ofUnits?_eq_some {us : List Nat} (hunits : ∀ u ∈ us, u < 0x10000) {s : String} :
    ofUnits? us = some s ↔ units s = us := by
  constructor
  · intro h
    obtain ⟨cs, hcs, rfl⟩ := Option.map_eq_some_iff.mp h
    rw [units, String.toList_ofList, flatMap_of_charsOfUnits? hcs hunits]
  · rintro rfl
    rw [ofUnits?, units, charsOfUnits?_flatMap, Option.map_some, String.ofList_toList]

end Text

open Text

/-! ### Bytes -/

namespace Encoding

/-- Two bytes are a unit. -/
lemma joinBytes_lt (bigEndian : Bool) (a b : UInt8) : joinBytes bigEndian a b < 0x10000 := by
  have ha := a.toNat_lt
  have hb := b.toNat_lt
  unfold joinBytes
  split <;> omega

/-- The unit of two bytes is split into them. -/
lemma splitUnit_joinBytes (bigEndian : Bool) (a b : UInt8) :
    splitUnit bigEndian (joinBytes bigEndian a b) = [a, b] := by
  have hparts (high low : UInt8) : (high.toNat * 256 + low.toNat) / 256 = high.toNat ∧
      (high.toNat * 256 + low.toNat) % 256 = low.toNat := by
    have := low.toNat_lt
    omega
  cases bigEndian with
  | false => simp [splitUnit, joinBytes, hparts]
  | true => simp [splitUnit, joinBytes, hparts]

/-- The bytes of a unit are grouped into it. -/
lemma unitsOfBytes?_splitUnit_append (bigEndian : Bool) {u : Nat} (hu : u < 0x10000)
    (bytes : List UInt8) : unitsOfBytes? bigEndian (splitUnit bigEndian u ++ bytes) =
      (unitsOfBytes? bigEndian bytes).map (u :: ·) := by
  have hjoin : u / 256 % 256 * 256 + u % 256 = u := by omega
  cases bigEndian with
  | false => simp [splitUnit, unitsOfBytes?, joinBytes, hjoin]
  | true => simp [splitUnit, unitsOfBytes?, joinBytes, hjoin]

/-- **Bytes are grouped into units** exactly if the units are split into them. -/
lemma unitsOfBytes?_eq_some {bigEndian : Bool} {bytes : List UInt8} {us : List Nat} :
    unitsOfBytes? bigEndian bytes = some us ↔
      us.flatMap (splitUnit bigEndian) = bytes ∧ ∀ u ∈ us, u < 0x10000 := by
  constructor
  · intro h
    fun_induction unitsOfBytes? bigEndian bytes generalizing us with
    | case1 =>
      obtain rfl := Option.some.inj h
      simp
    | case2 => nomatch h
    | case3 a b rest ih =>
      obtain ⟨us, hus, rfl⟩ := Option.map_eq_some_iff.mp h
      obtain ⟨hbytes, hunits⟩ := ih hus
      rw [List.flatMap_cons, splitUnit_joinBytes, hbytes]
      exact ⟨rfl, List.forall_mem_cons.mpr ⟨joinBytes_lt bigEndian a b, hunits⟩⟩
  · rintro ⟨rfl, hunits⟩
    induction us with
    | nil => rfl
    | cons u us ih =>
      obtain ⟨hunit, hunits⟩ := List.forall_mem_cons.mp hunits
      rw [List.flatMap_cons, unitsOfBytes?_splitUnit_append bigEndian hunit, ih hunits,
        Option.map_some]

/-- What is listed from a byte on are the bytes from there on. -/
lemma toList_loop (bytes : ByteArray) (i : Nat) (listed : List UInt8) :
    ByteArray.toList.loop bytes i listed = listed.reverse ++ bytes.data.toList.drop i := by
  fun_induction ByteArray.toList.loop bytes i listed with
  | case1 i listed h ih =>
    have hget : bytes.get! i = bytes.data.toList[i] := by
      rw [Array.getElem_toList]
      exact getElem!_pos bytes.data i h
    rw [ih, List.drop_eq_getElem_cons h, hget, List.reverse_cons, List.append_assoc,
      List.singleton_append]
  | case2 i listed h => rw [List.drop_eq_nil_of_le (Nat.le_of_not_lt h), List.append_nil]

/-- Bytes are a sequence exactly if they list it. -/
lemma toByteArray_eq_iff {bytes : ByteArray} {l : List UInt8} :
    l.toByteArray = bytes ↔ l = bytes.toList := by
  have hlisted : bytes.toList = bytes.data.toList := by
    rw [ByteArray.toList, toList_loop]
    rfl
  rw [hlisted]
  constructor
  · rintro rfl
    exact List.toList_data_toByteArray.symm
  · rintro rfl
    ext1
    simp

/-- Bytes are read as the text that is made of them. -/
lemma fromUTF8?_eq_some {bytes : ByteArray} {s : String} :
    String.fromUTF8? bytes = some s ↔ s.toUTF8 = bytes := by
  constructor
  · intro h
    unfold String.fromUTF8? at h
    split_ifs at h with hvalid
    obtain rfl := Option.some.inj h
    rfl
  · rintro rfl
    exact dif_pos s.isValidUTF8

/-- Bytes are read as the text whose units are split into them. -/
lemma bind_ofUnits?_eq_some {bigEndian : Bool} {bytes : ByteArray} {s : String} :
    (unitsOfBytes? bigEndian bytes.toList).bind ofUnits? = some s ↔
      ((units s).flatMap (splitUnit bigEndian)).toByteArray = bytes := by
  rw [toByteArray_eq_iff, Option.bind_eq_some_iff]
  constructor
  · rintro ⟨us, hus, hs⟩
    obtain ⟨hbytes, hunits⟩ := unitsOfBytes?_eq_some.mp hus
    rwa [(ofUnits?_eq_some hunits).mp hs]
  · intro hbytes
    exact ⟨units s, unitsOfBytes?_eq_some.mpr ⟨hbytes, fun _ => lt_of_mem_units⟩,
      (ofUnits?_eq_some fun _ => lt_of_mem_units).mpr rfl⟩

/-! ### Byte-order marks -/

/-- The byte-order mark. -/
def mark : String := "\uFEFF"

/-- **The text begins with a byte-order mark.** -/
def BeginsWithMark (text : String) : Prop := text.toList.head? = some '\uFEFF'

/-- One mark is dropped. -/
lemma dropMark_mark_append (text : String) : dropMark (mark ++ text) = text := by
  simp [dropMark, mark]

/-- What is dropped is one mark or nothing. -/
lemma dropMark_cases (text : String) :
    BeginsWithMark text ∧ mark ++ dropMark text = text ∨
      ¬BeginsWithMark text ∧ dropMark text = text := by
  unfold dropMark BeginsWithMark
  split
  next c cs hcs =>
    have hmark : (c.toNat == 0xFEFF) = true ↔ c = '\uFEFF' := by
      rw [beq_iff_eq, show 0xFEFF = '\uFEFF'.toNat from rfl, Char.toNat_inj]
    rw [hcs, List.head?_cons, Option.some_inj]
    split_ifs with hc
    · obtain rfl := hmark.mp hc
      refine .inl ⟨rfl, String.toList_inj.mp ?_⟩
      rw [String.toList_append, String.toList_ofList, hcs]
      rfl
    · exact .inr ⟨fun h => hc (hmark.mpr h), rfl⟩
  next hcs => simp [hcs]

/-! ### Writing and reading -/

/-- The encodings that can write every text. -/
def unicode : List Encoding := [utf8, utf16le, utf16be]

/-- **Bytes write a text** in an encoding, without a byte-order mark or after one. -/
def Writes (e : Encoding) (text : String) (bytes : ByteArray) : Prop :=
  e.encode? text = some bytes ∨ e.encode? (mark ++ text) = some bytes

variable {e : Encoding} {bytes : ByteArray} {text label : String} {others : Decoders}

/-- Every text can be written. -/
lemma encode?_isSome (he : e ∈ unicode) (text : String) : (e.encode? text).isSome = true := by
  cases e with
  | utf8 | utf16le | utf16be => rfl
  | windows1252 => simp [unicode] at he

/-- Bytes are read as what they write, without its mark. -/
lemma decode?_eq_some (he : e ∈ unicode) :
    e.decode? bytes = some text ↔ ∃ full, e.encode? full = some bytes ∧ dropMark full = text := by
  cases e with
  | utf8 => simp only [decode?, encode?, Option.map_eq_some_iff, fromUTF8?_eq_some, Option.some_inj]
  | utf16le | utf16be =>
    simp only [decode?, encode?, Option.map_eq_some_iff, bind_ofUnits?_eq_some, Option.some_inj]
  | windows1252 => simp [unicode] at he

/-- Bytes are read as a text that they write. -/
lemma writes_of_decode? (he : e ∈ unicode) (h : e.decode? bytes = some text) :
    e.Writes text bytes := by
  obtain ⟨full, hfull, rfl⟩ := (decode?_eq_some he).mp h
  rcases dropMark_cases full with ⟨-, hmark⟩ | ⟨-, hmark⟩
  · exact .inr (hmark.symm ▸ hfull)
  · exact .inl (hmark.symm ▸ hfull)

/-- Bytes that write a text are read. -/
lemma Writes.exists_decode? (h : e.Writes text bytes) (he : e ∈ unicode) :
    ∃ read, e.decode? bytes = some read := by
  rcases h with hplain | hmarked
  · exact ⟨_, (decode?_eq_some he).mpr ⟨text, hplain, rfl⟩⟩
  · exact ⟨_, (decode?_eq_some he).mpr ⟨mark ++ text, hmarked, rfl⟩⟩

/-- Bytes that write a text which begins with no mark are read as this text. -/
lemma Writes.decode?_eq (h : e.Writes text bytes) (he : e ∈ unicode)
    (hunmarked : ¬BeginsWithMark text) : e.decode? bytes = some text := by
  apply (decode?_eq_some he).mpr
  rcases h with hplain | hmarked
  · rcases dropMark_cases text with ⟨hmark, -⟩ | ⟨-, hdrop⟩
    · exact absurd hmark hunmarked
    · exact ⟨text, hplain, hdrop⟩
  · exact ⟨mark ++ text, hmarked, dropMark_mark_append text⟩

/-- An upload is decoded by the decoder that its label names. -/
lemma decodeUpload_of_ofLabel? (hlabel : ofLabel? label = some e) (others : Decoders)
    (bytes : ByteArray) : decodeUpload others label bytes =
      match e.decode? bytes with
      | none => .error (.malformed label)
      | some text => .ok text := by
  have hdecoder : decoder? others label = some e.decode? := by
    rw [decoder?, hlabel]
  cases hdecode : e.decode? bytes <;> simp only [decodeUpload, hdecoder, hdecode]

/-- An upload is decoded as its bytes are read. -/
lemma decodeUpload_of_decode? (hlabel : ofLabel? label = some e)
    (h : e.decode? bytes = some text) : decodeUpload others label bytes = .ok text := by
  rw [decodeUpload_of_ofLabel? hlabel, h]

/-- **Uploads are decoded exactly if they write a text**, and then as a text that they write. -/
lemma decodeUpload_writes (hlabel : ofLabel? label = some e) (he : e ∈ unicode)
    (bytes : ByteArray) :
    (∃ text, decodeUpload others label bytes = .ok text ∧ e.Writes text bytes) ∨
      decodeUpload others label bytes = .error (.malformed label) ∧
        ∀ text, ¬e.Writes text bytes := by
  cases hread : e.decode? bytes with
  | some text =>
    exact .inl ⟨text, decodeUpload_of_decode? hlabel hread, writes_of_decode? he hread⟩
  | none =>
    refine .inr ⟨by rw [decodeUpload_of_ofLabel? hlabel, hread], fun text h => ?_⟩
    obtain ⟨read, hsome⟩ := h.exists_decode? he
    rw [hread] at hsome
    nomatch hsome

end Encoding

/-! ### Previews -/

namespace ImportService

open QuizOverrides.Action Encoding

/-- The text of an upload whose label is known, if every runtime reads it in the same way. -/
lemma decode_eq {form : ImportForm} {label : String} (hlabel : encodingLabel form = .ok label)
    {bytes : ByteArray} {text : String}
    (h : ∀ others, decodeUpload others label bytes = .ok text) : decode form bytes = pure text := by
  unfold decode
  simp only [hlabel, usable, pure_bind, h]
  rfl

/-- An upload that names no encoding is in UTF-8. -/
lemma ofLabel?_defaultEncoding : ofLabel? defaultEncoding = some utf8 := by
  decide +kernel

/-- The encoding that a form names is used to decode its upload and for nothing else. -/
lemma preview_congr {form : ImportForm} {bytes bytes' : ByteArray} {encoding : Option Payload}
    (h : decode form bytes = decode { form with encoding := encoding } bytes')
    (quizId : Field String) (origin : RequestOrigin) :
    preview quizId bytes form origin =
      preview quizId bytes' { form with encoding := encoding } origin := by
  simp only [preview, examine, h]

/-- **The encoding of an upload makes no difference.** UTF-8 and the two forms of UTF-16 can write
every text.

* Under each label of them, bytes are decoded exactly if they write a text, with one byte-order mark
  or without, and then as a text that they write.
* All uploads that write the same text, which begins with no mark itself, have the same preview,
  from every state and with every outcome: that of the text in UTF-8 without a mark. What is kept in
  the batch of a preview is the text. -/
theorem preview_of_writes (quizId : Field String) (origin : RequestOrigin) :
    (∀ e ∈ unicode, ∀ text, (e.encode? text).isSome = true) ∧
    (∀ others label e, ofLabel? label = some e → e ∈ unicode → ∀ bytes,
      (∃ text, decodeUpload others label bytes = .ok text ∧ e.Writes text bytes) ∨
        decodeUpload others label bytes = .error (.malformed label) ∧
          ∀ text, ¬e.Writes text bytes) ∧
    ∀ form label e, encodingLabel form = .ok label → ofLabel? label = some e → e ∈ unicode →
      ∀ text bytes, ¬BeginsWithMark text → e.Writes text bytes →
        (∀ others, decodeUpload others label bytes = .ok text) ∧
        preview quizId bytes form origin =
          preview quizId text.toUTF8 { form with encoding := none } origin ∧
        ∀ s p s', (preview quizId bytes form origin).Returns s p s' →
          ∃ batch, batch.content = text ∧ s'.batches = putRow Batch.id batch s.batches := by
  refine ⟨fun e he text => encode?_isSome he text,
    fun others label e hlabel he bytes => decodeUpload_writes hlabel he bytes, ?_⟩
  intro form label e hform hlabel he text bytes hunmarked hwrites
  have hdecoded (others : Decoders) : decodeUpload others label bytes = .ok text :=
    decodeUpload_of_decode? hlabel (hwrites.decode?_eq he hunmarked)
  have hutf8 (others : Decoders) : decodeUpload others defaultEncoding text.toUTF8 = .ok text := by
    have hplain : utf8.Writes text text.toUTF8 := .inl rfl
    apply decodeUpload_of_decode? ofLabel?_defaultEncoding
    exact hplain.decode?_eq List.mem_cons_self hunmarked
  refine ⟨hdecoded, ?same, fun s p s' hreturns => ?kept⟩
  case same =>
    have hform' : encodingLabel { form with encoding := none } = .ok defaultEncoding := rfl
    have hdecode : decode form bytes = decode { form with encoding := none } text.toUTF8 :=
      (decode_eq hform hdecoded).trans (decode_eq hform' hutf8).symm
    exact preview_congr hdecode quizId origin
  case kept =>
    obtain ⟨batch, hkept, -, hbatches, -⟩ := preview_keeps hreturns
    obtain ⟨label', hform', hcontent⟩ := hkept.content
    obtain rfl : label' = label := Except.ok.inj (hform'.symm.trans hform)
    exact ⟨batch, Except.ok.inj (hcontent.symm.trans (hdecoded _)), hbatches⟩

/-- The text of an upload with a letter that takes two bytes in UTF-8 and a character that takes two
units in UTF-16. -/
def accentedText : String :=
  "userid,useridnumber,username,timeopen,timeclose,timelimit,attempts,password,generate\n" ++
    ",,ann,,,60,,pä😀,"

/-- The text in UTF-16, the more significant bytes first, after a mark. -/
def accentedFile : ByteArray :=
  ((units (mark ++ accentedText)).flatMap (splitUnit true)).toByteArray

/-- How the file is to be read. -/
def accentedForm : ImportForm := ⟨.kind .user, .named .comma, some (.text "UTF-16BE")⟩

/-- A surrogate that stands alone is refused. The preview of the text in UTF-16 is that of the text
in UTF-8, and keeps the text. -/
theorem preview_of_writes_accentedFile :
    (decodeUpload smallSite.runtime.decoders " Unicode\n" [0x3D, 0xD8, 0x41, 0x00].toByteArray =
        .error (.malformed " Unicode\n") ∧
      ∀ text, ¬utf16le.Writes text [0x3D, 0xD8, 0x41, 0x00].toByteArray) ∧
    ¬BeginsWithMark accentedText ∧ utf16be.Writes accentedText accentedFile ∧
    ∃ p s' batch,
      (preview smallQuiz accentedFile accentedForm ⟨none, none⟩).Returns smallSite p s' ∧
      (preview smallQuiz accentedText.toUTF8 smallForm ⟨none, none⟩).Returns smallSite p s' ∧
      batch.content = accentedText ∧ s'.batches = putRow Batch.id batch smallSite.batches := by
  obtain ⟨-, hdecodes, hpreviews⟩ := preview_of_writes smallQuiz ⟨none, none⟩
  have hunmarked : ¬BeginsWithMark accentedText := by
    unfold BeginsWithMark
    decide +kernel
  have hwrites : utf16be.Writes accentedText accentedFile := .inr rfl
  refine ⟨?alone, hunmarked, hwrites, ?kept⟩
  case alone =>
    have herror : decodeUpload smallSite.runtime.decoders " Unicode\n"
        [0x3D, 0xD8, 0x41, 0x00].toByteArray = .error (.malformed " Unicode\n") := by
      decide +kernel
    refine ⟨herror, ?_⟩
    rcases hdecodes smallSite.runtime.decoders " Unicode\n" utf16le (by decide +kernel) (by decide)
      [0x3D, 0xD8, 0x41, 0x00].toByteArray with ⟨text, htext, -⟩ | ⟨-, hnone⟩
    · rw [herror] at htext
      nomatch htext
    · exact hnone
  case kept =>
    obtain ⟨-, hsame, hkeeps⟩ := hpreviews accentedForm "UTF-16BE" utf16be (by decide +kernel)
      (by decide +kernel) (by decide) accentedText accentedFile hunmarked hwrites
    change preview smallQuiz accentedFile accentedForm ⟨none, none⟩ =
      preview smallQuiz accentedText.toUTF8 smallForm ⟨none, none⟩ at hsame
    have hruns : (runOn (preview smallQuiz accentedText.toUTF8 smallForm ⟨none, none⟩).run
        smallSite).1.isOk = true := by
      decide +kernel
    obtain ⟨p, hplain⟩ := exists_returns_of_isOk hruns
    generalize (runOn (preview smallQuiz accentedText.toUTF8 smallForm ⟨none, none⟩).run
      smallSite).2 = s' at hplain
    have hmarked : (preview smallQuiz accentedFile accentedForm ⟨none, none⟩).Returns
        smallSite p s' := by
      rwa [hsame]
    obtain ⟨batch, hcontent, hbatches⟩ := hkeeps smallSite p s' hmarked
    exact ⟨p, s', batch, hmarked, hplain, hcontent, hbatches⟩

end ImportService

end QuizOverrides
