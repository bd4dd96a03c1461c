import Mathlib.Algebra.Group.Nat.Defs
import SocketCensus.Discovery.SocketTool
import SocketCensus.Proofs.Discovery.Naming
import SocketCensus.Proofs.Text.Ascii

/-!
No owner of a socket is overlooked. Where the raw output of the listing tool holds a marker with
a number between two separators, the lossy reading holds the same marker between two delimiters,
whatever bytes surround it; so the place names its process and the discovery finds it.
-/
namespace SocketCensus

def isSeparator (b : UInt8) : Bool := b == 0x2c || b == 0x20 || (0x09 ≤ b && b ≤ 0x0d)

def isDigitByte (b : UInt8) : Bool := 0x30 ≤ b && b ≤ 0x39

def markerBytes : List UInt8 := [0x70, 0x69, 0x64, 0x3d]

/-- A field of an output that gives the owner of a socket. -/
structure OwnerField (output : List UInt8) where
  before : List UInt8
  digits : List UInt8
  after : List UInt8
  output_eq : output = before ++ (markerBytes ++ digits) ++ after
  opened : ∀ b ∈ before.getLast?, isSeparator b = true
  closed : ∀ b ∈ after.head?, isSeparator b = true
  digits_ne : digits ≠ []
  digits_all : ∀ b ∈ digits, isDigitByte b = true

def OwnerField.number {output : List UInt8} (f : OwnerField output) : Nat :=
  f.digits.foldl (fun n b => 10 * n + (b.toNat - 0x30)) 0

variable {b : UInt8} {digits : List UInt8}

theorem toNat_ofNat_ascii (hb : b.toNat < 0x80) : (Char.ofNat b.toNat).toNat = b.toNat := by
  have hvalid : b.toNat.isValidChar := Or.inl (by omega)
  rw [Char.ofNat, dif_pos hvalid]
  rfl

theorem separator_cases (hb : isSeparator b = true) :
    b.toNat = 0x2c ∨ b.toNat = 0x20 ∨ 0x09 ≤ b.toNat ∧ b.toNat ≤ 0x0d := by
  simp only [isSeparator, Bool.or_eq_true, Bool.and_eq_true, beq_iff_eq, decide_eq_true_eq] at hb
  rcases hb with (rfl | rfl) | ⟨hlow, hhigh⟩
  · exact Or.inl rfl
  · exact Or.inr (Or.inl rfl)
  · exact Or.inr (Or.inr ⟨hlow, hhigh⟩)

theorem isDelimiter_of_isSeparator (hb : isSeparator b = true) :
    b.toNat < 0x80 ∧ Marker.isDelimiter (Char.ofNat b.toNat) = true := by
  have hcases := separator_cases hb
  have hascii : b.toNat < 0x80 := by omega
  refine ⟨hascii, ?_⟩
  rcases hcases with hcomma | hspace | ⟨hlow, hhigh⟩
  · rw [hcomma]
    decide
  · rw [hspace]
    decide
  · have hblank : Text.isBlank (Char.ofNat b.toNat) = true := by
      refine (Text.isBlank_eq_true_iff _).mpr ⟨(0x9, 0xd), by decide, ?_⟩
      rw [toNat_ofNat_ascii hascii]
      exact ⟨hlow, hhigh⟩
    simp [Marker.isDelimiter, hblank]

theorem digitByte_bounds (hb : isDigitByte b = true) : 0x30 ≤ b.toNat ∧ b.toNat ≤ 0x39 := by
  simp only [isDigitByte, Bool.and_eq_true, decide_eq_true_eq] at hb
  exact ⟨hb.1, hb.2⟩

theorem digit?_of_isDigitByte (hb : isDigitByte b = true) :
    Decimal.digit? (Char.ofNat b.toNat) = some (b.toNat - 0x30) := by
  obtain ⟨hlow, hhigh⟩ := digitByte_bounds hb
  have hnat := toNat_ofNat_ascii (b := b) (by omega)
  have hrange : '0' ≤ Char.ofNat b.toNat ∧ Char.ofNat b.toNat ≤ '9' := by
    constructor
    · show 0x30 ≤ (Char.ofNat b.toNat).toNat
      omega
    · show (Char.ofNat b.toNat).toNat ≤ 0x39
      omega
  rw [Decimal.digit?, if_pos hrange, hnat]
  rfl

theorem valueFrom_asciiText (hdigits : ∀ b ∈ digits, isDigitByte b = true) (start : Nat) :
    Decimal.valueFrom start (Utf8.asciiText digits) =
      digits.foldl (fun n b => 10 * n + (b.toNat - 0x30)) start := by
  induction digits generalizing start with
  | nil => rfl
  | cons b rest ih =>
    have hb := digit?_of_isDigitByte (hdigits b List.mem_cons_self)
    have hrest := ih (fun x hx => hdigits x (List.mem_cons_of_mem b hx))
      (10 * start + (b.toNat - 0x30))
    rw [List.foldl_cons, ← hrest]
    simp [Decimal.valueFrom, Utf8.asciiText, hb]

theorem all_isDigit_asciiText (hdigits : ∀ b ∈ digits, isDigitByte b = true) :
    (Utf8.asciiText digits).all Decimal.isDigit = true := by
  rw [List.all_eq_true]
  intro c hc
  obtain ⟨b, hb, rfl⟩ := List.mem_map.mp hc
  simp [Decimal.isDigit, digit?_of_isDigitByte (hdigits b hb)]

theorem getLast?_decodeLossy {before : List UInt8}
    (hbefore : ∀ b ∈ before.getLast?, isSeparator b = true) :
    ∀ c ∈ (Utf8.decodeLossy before).getLast?, Marker.isDelimiter c = true := by
  rcases List.eq_nil_or_concat before with rfl | ⟨front, b, rfl⟩
  · simp
  · obtain ⟨hascii, hdelimiter⟩ := isDelimiter_of_isSeparator (hbefore b (by simp))
    rw [List.concat_eq_append, Utf8.decodeLossy_append_ascii front [] hascii, Utf8.decodeLossy_nil,
      List.getLast?_concat]
    intro c hc
    rw [← Option.some.inj hc]
    exact hdelimiter

theorem head?_decodeLossy {after : List UInt8}
    (hafter : ∀ b ∈ after.head?, isSeparator b = true) :
    ∀ c ∈ (Utf8.decodeLossy after).head?, Marker.isDelimiter c = true := by
  cases after with
  | nil => simp
  | cons b rest =>
    obtain ⟨hascii, hdelimiter⟩ := isDelimiter_of_isSeparator (hafter b rfl)
    have hread : Utf8.decodeLossy (b :: rest) = Char.ofNat b.toNat :: Utf8.decodeLossy rest :=
      Utf8.decodeLossy_append_ascii [] rest hascii
    intro c hc
    rw [hread] at hc
    rw [← Option.some.inj hc]
    exact hdelimiter

/-- A field of the output with a number of 63 bits is a place that names a process. -/
theorem OwnerField.exists_naming {output : List UInt8} (f : OwnerField output)
    (hfits : f.number ≤ Decimal.largest) :
    ∃ n : Marker.Naming (Utf8.decodeLossy output), n.pid = f.number := by
  have hvalue : Decimal.value (Utf8.asciiText f.digits) = f.number :=
    valueFrom_asciiText f.digits_all 0
  have hmarker : ∀ b ∈ markerBytes, b.toNat < 0x80 := by
    simp [markerBytes]
  have hword : ∀ b ∈ markerBytes ++ f.digits, b.toNat < 0x80 := by
    intro b hb
    rcases List.mem_append.mp hb with hb | hb
    · exact hmarker b hb
    · have := digitByte_bounds (f.digits_all b hb)
      omega
  have hread := Utf8.decodeLossy_around (by simp [markerBytes]) hword f.before f.after
  refine ⟨{
    before := Utf8.decodeLossy f.before
    inner := []
    digits := Utf8.asciiText f.digits
    after := Utf8.decodeLossy f.after
    text_eq := (congrArg Utf8.decodeLossy f.output_eq).trans hread
    opened := getLast?_decodeLossy f.opened
    closed := head?_decodeLossy f.closed
    inner_free := by simp [Marker.Free]
    inner_unmarked := by simp [Marker.Unmarked, Marker.marker]
    inner_boundary := by simp [Marker.AtBoundary]
    digits_ne := by simpa [Utf8.asciiText] using f.digits_ne
    digits_all := all_isDigit_asciiText f.digits_all
    fits := by rw [hvalue]; exact hfits }, ?_⟩
  simp only [Marker.Naming.pid, hvalue]

namespace SocketTool

theorem mem_pidsOfOutput_iff {output : List UInt8} {p : Pid} :
    p ∈ pidsOfOutput output ↔ ∃ n : Marker.Naming (Utf8.decodeLossy output), n.pid = p := by
  rw [pidsOfOutput, Pid.mem_distinct, Marker.pids_lines, Marker.mem_scan_iff]

theorem discover_eq_ok {tool : SocketTool} {machine : Machine} {result : Finished}
    (hfinished : attempt machine tool.program tool.arguments = .finished result)
    (hsuccess : result.status.success = true) :
    (tool.discover machine).value = .ok (pidsOfOutput result.stdout) := by
  simp [discover, runTool, launch, hfinished, hsuccess]

/-- A tool that ends with success hides no owner: the discovery succeeds and finds the number of
every field with an owner, unless the number is too large for any process. -/
theorem discover_finds_every_owner (tool : SocketTool) (machine : Machine) (result : Finished)
    (hfinished : attempt machine tool.program tool.arguments = .finished result)
    (hstatus : result.status = .ofExit 0) :
    ∃ pids, (tool.discover machine).value = .ok pids ∧
      ∀ f : OwnerField result.stdout, f.number ≤ 2 ^ 63 - 1 → (f.number : Pid) ∈ pids := by
  have hsuccess : result.status.success = true := by
    rw [hstatus]
    decide
  refine ⟨pidsOfOutput result.stdout, discover_eq_ok hfinished hsuccess, ?_⟩
  intro f hfits
  exact mem_pidsOfOutput_iff.mpr (f.exists_naming hfits)

/-- A field of process 42 behind a malformed marker and a broken character. -/
theorem discover_finds_forty_two :
    let before : List UInt8 := [0x70, 0x69, 0x64, 0x3d, 0x78, 0xf0, 0x9f, 0x2c]
    let digits : List UInt8 := [0x30, 0x30, 0x34, 0x32]
    let result : Finished := ⟨.ofExit 0, before ++ (markerBytes ++ digits) ++ [0x0d, 0xff], []⟩
    let machine : Machine := ⟨fun _ _ => .finished result, fun program _ => program⟩
    let tool : SocketTool := ⟨"ss", defaultArguments, .ofMillis 20000⟩
    attempt machine tool.program tool.arguments = .finished result ∧
      ∃ pids, (tool.discover machine).value = .ok pids ∧ 42 ∈ pids := by
  intro before digits result machine tool
  have hfinished : attempt machine tool.program tool.arguments = .finished result := by
    simp [attempt, machine, tool, defaultArguments, canBePassed]
  let f : OwnerField result.stdout :=
    { before := before
      digits := digits
      after := [0x0d, 0xff]
      output_eq := rfl
      opened := by simp [before, isSeparator]
      closed := by simp [isSeparator]
      digits_ne := by simp [digits]
      digits_all := by simp [digits, isDigitByte] }
  obtain ⟨pids, hpids, hfields⟩ :=
    discover_finds_every_owner tool machine result hfinished rfl
  exact ⟨hfinished, pids, hpids, hfields f (by decide)⟩

end SocketTool
end SocketCensus
