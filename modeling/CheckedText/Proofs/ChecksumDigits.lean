import CheckedText.Proofs.CommandResults
import CheckedText.Proofs.CrcDivision

/-!
# The checksum as it is shown

The checksum is written in two ways: as a number of eight hexadecimal digits, and as four bytes in
front of the blob that is encoded. Decoding without verification shows these bytes, digit by digit
the same number.
-/

namespace CheckedText

namespace Text

theorem hexadecimal_succ {width : Nat} (hwidth : 0 < width) (n : Nat) :
    hexadecimal (width + 1) n = hexadecimal width (n / 16) ++ [Nat.digitChar (n % 16)] := by
  unfold hexadecimal List.leftpad
  by_cases hn : n < 16
  · have hdiv : n / 16 = 0 := by omega
    have hfill : List.replicate width '0' = List.replicate (width - 1) '0' ++ ['0'] := by
      rw [← List.replicate_succ', Nat.sub_add_cancel hwidth]
    rw [Nat.toDigits_of_lt_base hn, hdiv, Nat.toDigits_zero, Nat.mod_eq_of_lt hn]
    simp [hfill]
  · rw [Nat.toDigits_of_base_le (by omega) (by omega)]
    simp

end Text

namespace Hex

def value (data : Blob) : Nat :=
  data.foldl (fun n b => 256 * n + b.toNat) 0

theorem encode_append (data data' : Blob) : encode (data ++ data') = encode data ++ encode data' :=
  List.flatMap_append

theorem length_encode (data : Blob) : (encode data).length = 2 * data.length := by
  induction data with
  | nil => rfl
  | cons b data ih =>
    rw [List.length_cons, Nat.mul_succ, ← ih]
    rfl

theorem digit_mem : ∀ n < 16, digit n ∈ "0123456789abcdef".toList := by decide

theorem mem_encode {data : Blob} {c : Char} (hc : c ∈ encode data) :
    c ∈ "0123456789abcdef".toList := by
  obtain ⟨n, hn, rfl⟩ := exists_digit_of_mem_encode hc
  exact digit_mem n hn

theorem hexadecimal_value {data : Blob} (hne : data ≠ []) :
    Text.hexadecimal (2 * data.length) (value data) = encode data := by
  induction data using List.reverseRecOn with
  | nil => exact absurd rfl hne
  | append_singleton data b ih =>
    have hbyte := b.toNat_lt
    have hvalue : value (data ++ [b]) = 256 * value data + b.toNat := by simp [value]
    have hlength : 2 * (data ++ [b]).length = 2 * data.length + 1 + 1 := by
      rw [List.length_append, List.length_singleton]
      omega
    have hhigh : (256 * value data + b.toNat) / 16 % 16 = b.toNat / 16 := by omega
    have hlow : (256 * value data + b.toNat) % 16 = b.toNat % 16 := by omega
    rw [hlength, hvalue, Text.hexadecimal_succ (by omega), hlow, encode_append]
    cases data with
    | nil =>
      have hdigit : b.toNat / 16 < 16 := by omega
      simp [value, Text.hexadecimal, Nat.toDigits_of_lt_base hdigit, List.leftpad, encode, digit]
    | cons a data =>
      have hvalue' : (256 * value (a :: data) + b.toNat) / 16 / 16 = value (a :: data) := by omega
      rw [Text.hexadecimal_succ (by simp), hhigh, hvalue', ih (List.cons_ne_nil a data),
        List.append_assoc]
      rfl

end Hex

namespace Crc32

theorem display_eq_encode (r : UInt32) : display r = Hex.encode (toBytes r) := by
  have hne : toBytes r ≠ [] := List.cons_ne_nil _ _
  have hdigits := Hex.hexadecimal_value hne
  rw [Hex.value, bigEndian_toBytes] at hdigits
  exact hdigits

end Crc32

namespace Decode

theorem blob_unverified {f : Format} {o : Encode.Options} {o' : Options} {data : Blob} {t : Text}
    (hverify : verifies f o' = false)
    (ht : Decoration.compact f.separator t = Encode.written f o data) :
    blob f o' t = .ok (Encode.payload f o data, false) := by
  rw [blob_eq_ok_iff, ht, hverify]
  refine ⟨?_, Base32.hasCanonicalPadding_letters _ _⟩
  exact Except.mapError_eq_ok_iff.mpr (Base32.decode_letters _ _)

end Decode

namespace Session

open CommandLine

variable {s s' : Session} {arguments arguments' rest rest' : List Text} {g g' : Globals}
  {config config' : Config} {o : Checksum.Options} {o' : Encode.Options} {stdin stdin' data : Blob}

/-- What the checksum command prints for a blob stands in front of the blob where decoding shows
the text of an encoding with checksum, whatever its layout. -/
theorem invoke_decode_shows_checksum (hcalls : Calls arguments g .checksum rest)
    (hload : s.surroundings.loadConfig g.config = .ok config)
    (hasks : Asks .checksum Checksum.Options.ofParsed rest o)
    (hdata : s.surroundings.readBlob stdin o.data o.file o.hex = .ok data)
    (hcalls' : Calls arguments' g' .encode rest')
    (hload' : s'.surroundings.loadConfig g'.config = .ok config')
    (hasks' : Asks .encode Encode.Options.ofParsed rest' o')
    (hplain : o'.plain = false) (hchecksum : o'.checksum = some true)
    (hdata' : s'.surroundings.readBlob stdin' o'.data o'.file o'.hex = .ok data) :
    ∃ digits page, digits.length = 8 ∧ (∀ c ∈ digits, c ∈ "0123456789abcdef".toList) ∧
      s.invoke arguments stdin = (⟨.ok 0, Utf8.encode (digits ++ ['\n']), [], []⟩,
        ⟨s.surroundings, g.consoles config⟩) ∧
      s'.invoke arguments' stdin' = (⟨.ok 0, Utf8.encode page, [], []⟩,
        ⟨s'.surroundings, g'.consoles config'⟩) ∧
      ∀ (s'' : Session) (arguments'' rest'' : List Text) (g'' : Globals) (config'' : Config)
        (o'' : Decode.Options) (stdin'' : Blob),
        Calls arguments'' g'' .decode rest'' →
        s''.surroundings.loadConfig g''.config = .ok config'' → config''.format = config'.format →
        Asks .decode Decode.Options.ofParsed rest'' o'' →
        o''.verify = some false → o''.format = .hex → o''.output = none →
        s''.surroundings.readText stdin'' o''.text o''.file = .ok page →
        s''.invoke arguments'' stdin'' =
          (⟨.ok 0, Utf8.encode (digits ++ Hex.encode data ++ ['\n']), [], []⟩,
            ⟨s''.surroundings, g''.consoles config''⟩) := by
  obtain ⟨page, hcompact, hencoded⟩ := invoke_encode hcalls' hload' hasks' hdata'
  have hsummed := invoke_checksum hcalls hload hasks hdata
  rw [Crc32.display_eq_encode] at hsummed
  refine ⟨_, page, Hex.length_encode _, fun c hc => Hex.mem_encode hc, hsummed, hencoded, ?_⟩
  intro s'' arguments'' rest'' g'' config'' o'' stdin'' hcalls'' hload'' hformat hasks'' hverify
    hhex houtput htext
  have hpayload : Encode.payload config''.format o' data = Crc32.checksumBytes data ++ data := by
    simp [Encode.payload, Encode.hasChecksum, Encode.usesChecksum, hplain, hchecksum]
  have hblob : Decode.blob config''.format o'' page =
      .ok (Crc32.checksumBytes data ++ data, false) := by
    rw [← hpayload]
    rw [← hformat] at hcompact
    exact Decode.blob_unverified (by simp [Decode.verifies, hverify]) hcompact
  obtain ⟨err, herr, hinvoke⟩ := invoke_decode hcalls'' hload'' hasks'' htext hblob
    fun p => Decode.ends_output_hex houtput hhex
  rw [hinvoke, herr rfl, Hex.encode_append]
  rfl

theorem invoke_decode_shows_checksum_leading_zeros :
    let s := configured "[format]\ngroup_size=2\nseparator='='".toList []
    ∃ page,
      s.invoke ["checksum".toList, "&".toList] [] =
        (⟨.ok 0, Utf8.encode "000f6a70\n".toList, [], []⟩, s) ∧
      s.invoke ["encode".toList, "--checksum".toList, "--line-length=3".toList, "&".toList] [] =
        (⟨.ok 0, Utf8.encode page, [], []⟩, s) ∧
      s.invoke ["decode".toList, "--no-verify".toList, "--file=-".toList] (Utf8.encode page) =
        (⟨.ok 0, Utf8.encode "000f6a7026\n".toList, [], []⟩, s) := by
  intro s
  let config : Config :=
    ⟨⟨.slash, ["c".toList]⟩, ⟨2, ['='], .lower, true, none⟩, ⟨false, false⟩⟩
  have hload : s.surroundings.loadConfig none = .ok config :=
    loadConfig_configured (Except.toOption_eq_some_iff.mp (by decide +kernel))
  have hasks : Asks .checksum Checksum.Options.ofParsed ["&".toList]
      ⟨some "&".toList, none, false⟩ :=
    ⟨_, rfl, rfl, rfl⟩
  have hasks' : Asks .encode Encode.Options.ofParsed
      ["--checksum".toList, "--line-length=3".toList, "&".toList]
      ⟨some "&".toList, none, false, false, some true, true, none, some 3⟩ :=
    ⟨_, rfl, rfl, rfl⟩
  have hasks'' : Asks .decode Decode.Options.ofParsed
      ["--no-verify".toList, "--file=-".toList] ⟨none, some "-".toList, some false, .hex, none⟩ :=
    ⟨_, rfl, rfl, rfl⟩
  have hdata : s.surroundings.readBlob [] (some "&".toList) none false = .ok [38] := rfl
  obtain ⟨digits, page, -, -, hsummed, hencoded, hdecoded⟩ :=
    invoke_decode_shows_checksum (calls_checksum _) hload hasks hdata (calls_encode _)
      hload hasks' rfl rfl hdata
  have hdigits : digits = "000f6a70".toList := by
    have hdisplay : Crc32.display (Crc32.checksum [38]) = "000f6a70".toList := by decide +kernel
    have hprinted := invoke_checksum (calls_checksum _) hload hasks hdata
    rw [hsummed, hdisplay] at hprinted
    have hbytes := congrArg (fun r => r.1.stdout) hprinted
    exact List.append_cancel_right (Utf8.encode_injective hbytes)
  refine ⟨page, ?_, hencoded, ?_⟩
  · rw [hsummed, hdigits]
    rfl
  · rw [hdecoded s _ _ _ config _ _ (calls_decode _) hload rfl hasks'' rfl rfl rfl
      (Surroundings.readText_of_encode rfl), hdigits]
    rfl

end Session

end CheckedText
