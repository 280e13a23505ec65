import ServiceClient.Codec.Percent
import ServiceClient.Proofs.Utf8

/-!
Texts are read back from their percent-encoding. What is encoded consists of characters that are
kept and of percent signs and hexadecimal digits, so that a separator which is not kept can be put
between encoded texts and found again.
-/

namespace ServiceClient.Percent

/-! ### Escapes -/

/-- The digits of escapes. -/
def hexDigit (n : Nat) : Char := (Nat.digitChar n).toUpper

theorem escapeOctet_eq (b : UInt8) :
    escapeOctet b = ['%', hexDigit (b.toNat / 16 % 16), hexDigit (b.toNat % 16)] := rfl

theorem hexValue?_hexDigit : ∀ n < 16, Text.hexValue? (hexDigit n) = some n := by decide

/-- The characters that escapes are made of. -/
def escapeChars : List Char := "%0123456789ABCDEF".toList

theorem hexDigit_mem_escapeChars : ∀ n < 16, hexDigit n ∈ escapeChars := by decide

theorem mem_escapeChars_of_mem_escapeOctet {b : UInt8} {c : Char} (inside : c ∈ escapeOctet b) :
    c ∈ escapeChars := by
  have high := hexDigit_mem_escapeChars (b.toNat / 16 % 16) (Nat.mod_lt _ (by decide))
  have low := hexDigit_mem_escapeChars (b.toNat % 16) (Nat.mod_lt _ (by decide))
  simp only [escapeOctet_eq, List.mem_cons, List.not_mem_nil, or_false] at inside
  rcases inside with rfl | rfl | rfl
  · decide
  · exact high
  · exact low

theorem ascii_of_mem_escapeChars : ∀ c ∈ escapeChars, c.toNat < 128 := by
  intro c inside
  have all : escapeChars.all (·.toNat < 128) = true := by decide
  exact of_decide_eq_true (List.all_eq_true.mp all c inside)

theorem unescape_escapeOctet (b : UInt8) (rest : List Char) :
    unescape (escapeOctet b ++ rest) = b :: unescape rest := by
  have high := hexValue?_hexDigit (b.toNat / 16 % 16) (Nat.mod_lt _ (by decide))
  have low := hexValue?_hexDigit (b.toNat % 16) (Nat.mod_lt _ (by decide))
  have value : 16 * (b.toNat / 16 % 16) + b.toNat % 16 = b.toNat := by
    have bound := b.toNat_lt
    omega
  rw [escapeOctet_eq, List.cons_append, List.cons_append, List.cons_append, List.nil_append,
    unescape, high, low]
  dsimp only
  rw [value, UInt8.ofNat_toNat]

theorem unescape_escapeOctets (bs : Octets) (rest : List Char) :
    unescape (bs.flatMap escapeOctet ++ rest) = bs ++ unescape rest := by
  induction bs with
  | nil => rfl
  | cons b more ih =>
    rw [List.flatMap_cons, List.append_assoc, unescape_escapeOctet, ih, List.cons_append]

theorem unescape_cons {c : Char} (plain : c ≠ '%') (rest : List Char) :
    unescape (c :: rest) = String.utf8EncodeChar c ++ unescape rest := by
  rw [unescape]
  rintro high low after same
  exact absurd same plain

/-! ### Escaped text -/

/-- Text of kept characters and escaped octets. -/
inductive Escaped (keep : Char → Bool) : List Char → Prop
  | nil : Escaped keep []
  | kept {c : Char} {rest : List Char} (plain : keep c = true) (more : Escaped keep rest) :
    Escaped keep (c :: rest)
  | octet (b : UInt8) {rest : List Char} (more : Escaped keep rest) :
    Escaped keep (escapeOctet b ++ rest)

section Escaped

variable {keep : Char → Bool} {cs others : List Char} {c : Char}

theorem ne_percent_of_kept (percent : keep '%' = false) (kept : keep c = true) : c ≠ '%' := by
  rintro rfl
  rw [percent] at kept
  cases kept

theorem Escaped.append (first : Escaped keep cs) (second : Escaped keep others) :
    Escaped keep (cs ++ others) := by
  induction first with
  | nil => exact second
  | kept plain _ ih => exact .kept plain ih
  | octet b _ ih =>
    rw [List.append_assoc]
    exact .octet b ih

theorem Escaped.mono {wider : Char → Bool} (escaped : Escaped keep cs)
    (stays : ∀ c, keep c = true → wider c = true) : Escaped wider cs := by
  induction escaped with
  | nil => exact .nil
  | kept plain _ ih => exact .kept (stays _ plain) ih
  | octet b _ ih => exact .octet b ih

theorem Escaped.mem (escaped : Escaped keep cs) (inside : c ∈ cs) :
    keep c = true ∨ c ∈ escapeChars := by
  induction escaped with
  | nil => cases inside
  | kept plain _ ih =>
    rcases List.mem_cons.mp inside with rfl | inside
    · exact .inl plain
    · exact ih inside
  | octet b _ ih =>
    rcases List.mem_append.mp inside with inside | inside
    · exact .inr (mem_escapeChars_of_mem_escapeOctet inside)
    · exact ih inside

/-- A character that is neither kept nor used by escapes is in no escaped text. -/
theorem Escaped.not_mem (escaped : Escaped keep cs) (dropped : keep c = false)
    (other : c ∉ escapeChars) : c ∉ cs := by
  intro inside
  rcases escaped.mem inside with kept | escape
  · rw [dropped] at kept
    cases kept
  · exact other escape

theorem Escaped.ascii (escaped : Escaped keep cs) (kept : ∀ c, keep c = true → c.toNat < 128) :
    ∀ c ∈ cs, c.toNat < 128 := by
  intro c inside
  rcases escaped.mem inside with plain | escape
  · exact kept c plain
  · exact ascii_of_mem_escapeChars c escape

/-- An escape does not reach beyond escaped text. -/
theorem Escaped.unescape_append (escaped : Escaped keep cs) (percent : keep '%' = false)
    (rest : List Char) : unescape (cs ++ rest) = unescape cs ++ unescape rest := by
  induction escaped with
  | nil => rw [unescape, List.nil_append, List.nil_append]
  | kept plain _ ih =>
    have other := ne_percent_of_kept percent plain
    rw [List.cons_append, unescape_cons other, unescape_cons other, ih, List.append_assoc]
  | octet b _ ih =>
    rw [List.append_assoc, unescape_escapeOctet, unescape_escapeOctet, ih, List.cons_append]

end Escaped

/-! ### Encoded characters -/

section Encoded

variable {keep : Char → Bool} {cs : List Char} {c : Char}

theorem escaped_octets (keep : Char → Bool) (bs : Octets) :
    Escaped keep (bs.flatMap escapeOctet) := by
  induction bs with
  | nil => exact .nil
  | cons b _ ih => exact .octet b ih

theorem escaped_encodeChars (keep : Char → Bool) (cs : List Char) :
    Escaped keep (encodeChars keep cs) := by
  induction cs with
  | nil => exact .nil
  | cons c rest ih =>
    rw [encodeChars, List.flatMap_cons]
    by_cases kept : keep c = true
    · rw [if_pos kept]
      exact .kept kept ih
    · rw [if_neg kept]
      exact (escaped_octets keep _).append ih

theorem not_mem_encodeChars (dropped : keep c = false) (other : c ∉ escapeChars) (cs : List Char) :
    c ∉ encodeChars keep cs :=
  (escaped_encodeChars keep cs).not_mem dropped other

/-- The octets of an encoded text are those of the text. -/
theorem unescape_encodeChars (percent : keep '%' = false) (cs : List Char) :
    unescape (encodeChars keep cs) = cs.flatMap String.utf8EncodeChar := by
  induction cs with
  | nil => rw [encodeChars, List.flatMap_nil, List.flatMap_nil, unescape]
  | cons c rest ih =>
    rw [encodeChars, List.flatMap_cons, List.flatMap_cons]
    by_cases kept : keep c = true
    · have plain := ne_percent_of_kept percent kept
      rw [if_pos kept, List.singleton_append, unescape_cons plain]
      exact congrArg _ ih
    · rw [if_neg kept, unescape_escapeOctets]
      exact congrArg _ ih

theorem encodeChars_of_kept (all : ∀ c ∈ cs, keep c = true) : encodeChars keep cs = cs := by
  induction cs with
  | nil => rfl
  | cons c rest ih =>
    have later := ih fun other inside => all other (List.mem_cons_of_mem c inside)
    rw [encodeChars, List.flatMap_cons, if_pos (all c List.mem_cons_self)]
    exact congrArg _ later

theorem count_encodeChars_of_kept (kept : keep c = true) (other : c ∉ escapeChars)
    (cs : List Char) : (encodeChars keep cs).count c = cs.count c := by
  induction cs with
  | nil => rfl
  | cons d rest ih =>
    rw [encodeChars, List.flatMap_cons]
    by_cases stays : keep d = true
    · rw [if_pos stays, List.singleton_append, List.count_cons, List.count_cons]
      exact congrArg (· + _) ih
    · have apart : d ≠ c := by
        rintro rfl
        exact stays kept
      have none : c ∉ (String.utf8EncodeChar d).flatMap escapeOctet :=
        (escaped_octets (fun _ => false) _).not_mem rfl other
      rw [if_neg stays, List.count_append, List.count_eq_zero.mpr none, Nat.zero_add,
        List.count_cons_of_ne apart]
      exact ih

end Encoded

/-! ### Decoding -/

theorem unescape_of_not_mem {cs : List Char} (absent : '%' ∉ cs) :
    unescape cs = cs.flatMap String.utf8EncodeChar := by
  induction cs with
  | nil => rw [List.flatMap_nil, unescape]
  | cons c rest ih =>
    have plain : c ≠ '%' := fun same => absent (same ▸ List.mem_cons_self)
    have later := ih fun inside => absent (List.mem_cons_of_mem c inside)
    rw [unescape_cons plain, later, List.flatMap_cons]

theorem asciiRuns_of_ascii {cs : List Char} (ascii : ∀ c ∈ cs, c.toNat < 128) (some : cs ≠ []) :
    asciiRuns cs = [(true, cs)] := by
  induction cs with
  | nil => exact absurd rfl some
  | cons c rest ih =>
    have first : decide (c.toNat < 128) = true := decide_eq_true (ascii c List.mem_cons_self)
    cases rest with
    | nil => simp [asciiRuns, first]
    | cons next others =>
      have later := ih (fun other inside => ascii other (List.mem_cons_of_mem c inside)) (by simp)
      rw [asciiRuns, later, first]
      rfl

/-- A text of ASCII characters is read by its octets as a whole. -/
theorem decode_of_ascii {cs : List Char} (ascii : ∀ c ∈ cs, c.toNat < 128) :
    decode (String.ofList cs) = Text.utf8DecodeLossy (unescape cs) := by
  rw [decode, String.toList_ofList]
  by_cases escaped : '%' ∈ cs
  · have some : cs ≠ [] := List.ne_nil_of_mem escaped
    rw [if_pos (by simpa using escaped), asciiRuns_of_ascii ascii some]
    simp [String.join]
  · have octets : unescape cs = Text.utf8Encode (String.ofList cs) := by
      rw [unescape_of_not_mem escaped, Text.utf8Encode, String.toList_ofList]
    rw [if_neg (by simpa using escaped), octets, Text.utf8DecodeLossy_utf8Encode]

theorem ascii_of_isUnreserved {c : Char} (unreserved : isUnreserved c = true) : c.toNat < 128 := by
  simp only [isUnreserved, Bool.or_eq_true, beq_iff_eq] at unreserved
  rcases unreserved with (((alphanumeric | rfl) | rfl) | rfl) | rfl
  · have range := Text.toNat_of_isAlphanum alphanumeric
    omega
  all_goals decide

/-- Texts are read back if only ASCII characters other than the percent sign are kept. -/
theorem decode_encodeChars {keep : Char → Bool} (percent : keep '%' = false)
    (ascii : ∀ c, keep c = true → c.toNat < 128) (s : String) :
    decode (String.ofList (encodeChars keep s.toList)) = s := by
  have octets : unescape (encodeChars keep s.toList) = Text.utf8Encode s :=
    unescape_encodeChars percent s.toList
  rw [decode_of_ascii ((escaped_encodeChars keep s.toList).ascii ascii), octets,
    Text.utf8DecodeLossy_utf8Encode]

/-! ### Names and values -/

/-- An encoding of texts that may stand in a form: they are read back from there, and none of them
holds a separator of names and values. -/
structure FormSafe (encode : String → String) : Prop where
  read : ∀ s, formDecode (encode s) = s
  ampersand : ∀ s, '&' ∉ (encode s).toList
  equals : ∀ s, '=' ∉ (encode s).toList

theorem encode_eq (s : String) : encode "" s = String.ofList (encodeChars isUnreserved s.toList) := by
  simp [encode]

theorem not_mem_encode {c : Char} (reserved : isUnreserved c = false) (other : c ∉ escapeChars)
    (s : String) : c ∉ (encode "" s).toList := by
  rw [encode_eq, String.toList_ofList]
  exact not_mem_encodeChars reserved other s.toList

/-- The octets of an encoded text are well-formed and those of the text. -/
theorem utf8Decode?_unescape_encode (s : String) :
    Text.utf8Decode? (unescape (encode "" s).toList) = some s := by
  have octets : unescape (encodeChars isUnreserved s.toList) = Text.utf8Encode s :=
    unescape_encodeChars (by decide) s.toList
  rw [encode_eq, String.toList_ofList, octets, Text.utf8Decode?_utf8Encode]

theorem formSafe_encode : FormSafe (encode "") where
  read := by
    intro s
    have noPlus : ∀ c ∈ encodeChars isUnreserved s.toList, (if c = '+' then ' ' else c) = c := by
      intro c inside
      apply if_neg
      rintro rfl
      exact not_mem_encodeChars (by decide) (by decide) s.toList inside
    rw [formDecode, encode_eq, String.toList_ofList, List.map_congr_left noPlus, List.map_id']
    exact decode_encodeChars (by decide) (fun c => ascii_of_isUnreserved) s
  ampersand := not_mem_encode (by decide) (by decide)
  equals := not_mem_encode (by decide) (by decide)

/-- The characters that names and values of a form keep. -/
def keptInForm (c : Char) : Bool := isUnreserved c || c == ' '

theorem ascii_of_keptInForm {c : Char} (kept : keptInForm c = true) : c.toNat < 128 := by
  rcases Bool.or_eq_true_iff.mp kept with unreserved | space
  · exact ascii_of_isUnreserved unreserved
  · rw [beq_iff_eq.mp space]
    decide

theorem not_mem_formEncode {c : Char} (dropped : keptInForm c = false) (other : c ∉ escapeChars)
    (notPlus : c ≠ '+') (s : String) : c ∉ (formEncode s).toList := by
  intro inside
  rw [formEncode, String.toList_ofList] at inside
  obtain ⟨source, listed, same⟩ := List.mem_map.mp inside
  by_cases space : source = ' '
  · rw [if_pos space] at same
    exact notPlus same.symm
  · rw [if_neg space] at same
    rw [same] at listed
    exact not_mem_encodeChars dropped other s.toList listed

theorem formSafe_formEncode : FormSafe formEncode where
  read := by
    intro s
    have noPlus : '+' ∉ encodeChars keptInForm s.toList :=
      not_mem_encodeChars (by decide) (by decide) s.toList
    -- plus signs stand for spaces alone, since those of the text are escaped
    have back : ∀ c ∈ encodeChars keptInForm s.toList,
        (if (if c = ' ' then '+' else c) = '+' then ' ' else if c = ' ' then '+' else c) = c := by
      intro c inside
      have notPlus : c ≠ '+' := fun same => noPlus (same ▸ inside)
      by_cases space : c = ' '
      · simp [space]
      · simp [space, notPlus]
    have decoded := decode_encodeChars (by decide) (fun c => ascii_of_keptInForm) s
    rw [formDecode, formEncode, String.toList_ofList, List.map_map]
    exact (congrArg (fun cs => decode (String.ofList cs))
      ((List.map_congr_left back).trans (List.map_id' _))).trans decoded
  ampersand := not_mem_formEncode (by decide) (by decide) (by decide)
  equals := not_mem_formEncode (by decide) (by decide) (by decide)

/-! ### Pairs -/

/-- Names and values as pieces of a form. -/
def joinPairs (encode : String → String) (pairs : List (String × String)) : String :=
  Text.intercalate "&" (pairs.map fun (name, value) => encode name ++ "=" ++ encode value)

section Pairs

variable {encode : String → String} {pairs : List (String × String)}

/-- The characters of a name and its value. -/
def pieceOf (encode : String → String) (pair : String × String) : List Char :=
  (encode pair.1).toList ++ '=' :: (encode pair.2).toList

theorem toList_joinPairs : (joinPairs encode pairs).toList =
    Text.joinWith '&' (pairs.map (pieceOf encode)) := by
  have joined := Text.toList_intercalate '&'
    (pairs.map fun pair => encode pair.1 ++ "=" ++ encode pair.2)
  rw [List.map_map] at joined
  refine joined.trans (congrArg (Text.joinWith '&') (List.map_congr_left fun pair _ => ?_))
  simp [pieceOf]

theorem splitOn_joinPairs (safe : FormSafe encode) (some : pairs ≠ []) :
    Text.splitOn '&' (joinPairs encode pairs).toList = pairs.map (pieceOf encode) := by
  rw [toList_joinPairs]
  refine Text.splitOn_joinWith (by simpa using some) ?_
  rintro piece listed inside
  obtain ⟨pair, -, rfl⟩ := List.mem_map.mp listed
  rcases List.mem_append.mp inside with name | value
  · exact safe.ampersand _ name
  · rcases List.mem_cons.mp value with equals | value
    · exact absurd equals (by decide)
    · exact safe.ampersand _ value

theorem not_mem_joinPairs {c : Char} (ampersand : c ≠ '&') (equals : c ≠ '=')
    (absent : ∀ s, c ∉ (encode s).toList) (pairs : List (String × String)) :
    c ∉ (joinPairs encode pairs).toList := by
  rw [toList_joinPairs]
  intro inside
  rcases Text.mem_joinWith inside with same | ⟨piece, listed, within⟩
  · exact ampersand same
  · obtain ⟨pair, -, rfl⟩ := List.mem_map.mp listed
    rcases List.mem_append.mp within with name | value
    · exact absent _ name
    · rcases List.mem_cons.mp value with same | value
      · exact equals same
      · exact absent _ value

theorem cut_pieceOf (safe : FormSafe encode) (pair : String × String) :
    Text.cut '=' (pieceOf encode pair) = ((encode pair.1).toList, some (encode pair.2).toList) :=
  Text.cut_append (safe.equals _) _

/-- Pairs are read back from a form, those with empty names or values too. -/
theorem decodeForm_joinPairs (safe : FormSafe encode) (pairs : List (String × String)) :
    decodeForm (joinPairs encode pairs) = pairs := by
  by_cases none : pairs = []
  · subst none
    rfl
  · have nonempty : (pairs.map (pieceOf encode)).filter (!·.isEmpty) = pairs.map (pieceOf encode) := by
      refine List.filter_eq_self.mpr fun piece listed => ?_
      obtain ⟨pair, -, rfl⟩ := List.mem_map.mp listed
      simp [pieceOf]
    have each : ∀ pair ∈ pairs, (formDecode (String.ofList (Text.cut '=' (pieceOf encode pair)).1),
        formDecode (String.ofList ((Text.cut '=' (pieceOf encode pair)).2.getD []))) = pair := by
      intro pair _
      rw [cut_pieceOf safe, Option.getD_some, String.ofList_toList, String.ofList_toList, safe.read,
        safe.read]
    rw [decodeForm, splitOn_joinPairs safe none, nonempty, List.map_map]
    exact (List.map_congr_left each).trans (List.map_id' pairs)

end Pairs

end ServiceClient.Percent
