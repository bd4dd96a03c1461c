import SocketCensus.Proofs.Entry.MapTool

/-!
The command of an update. Its arguments can be read back: the map path stands at a place of its own,
and the words of the key end at the word `value`, which is no word of a byte. The log shows the program
and these very arguments, with single spaces between them, as long as neither the key nor the value is
empty.
-/
namespace SocketCensus.MapTool

variable {tool : MapTool} {machine : Machine} {mapPath : String} {key value : List UInt8}

def keyWords (arguments : List String) : List String :=
  (arguments.drop 6).takeWhile fun w => w != "value"

def valueWords (arguments : List String) : List String :=
  ((arguments.drop 6).dropWhile fun w => w != "value").drop 2

theorem ne_value_of_mem_words {w : String} (hw : w ∈ Hex.words key) : (w != "value") = true := by
  obtain ⟨b, -, rfl⟩ := List.mem_map.mp hw
  rw [bne_iff_ne]
  intro heq
  have hlength := Hex.length_word b
  rw [heq] at hlength
  contradiction

theorem drop_arguments : (arguments mapPath key value).drop 6 =
    Hex.words key ++ "value" :: "hex" :: Hex.words value := by
  simp [arguments]

theorem keyWords_arguments : keyWords (arguments mapPath key value) = Hex.words key := by
  rw [keyWords, drop_arguments, List.takeWhile_append_of_pos fun w => ne_value_of_mem_words]
  simp

theorem valueWords_arguments : valueWords (arguments mapPath key value) = Hex.words value := by
  rw [valueWords, drop_arguments, List.dropWhile_append_of_pos fun w => ne_value_of_mem_words]
  simp

theorem eq_of_arguments_eq {mapPath' : String} {key' value' : List UInt8}
    (h : arguments mapPath key value = arguments mapPath' key' value') :
    mapPath = mapPath' ∧ key = key' ∧ value = value' := by
  have hpath : some mapPath = some mapPath' := congrArg (fun words => words[3]?) h
  have hkey := congrArg keyWords h
  have hvalue := congrArg valueWords h
  rw [keyWords_arguments, keyWords_arguments] at hkey
  rw [valueWords_arguments, valueWords_arguments] at hvalue
  exact ⟨Option.some.inj hpath, Hex.eq_of_words_eq hkey, Hex.eq_of_words_eq hvalue⟩

/-- What is shown is the program and its arguments, unless there are two spaces where no byte is. -/
theorem commandLine_eq_intercalate (hkey : key ≠ []) (hvalue : value ≠ []) :
    tool.commandLine mapPath key value =
      " ".intercalate (tool.program :: arguments mapPath key value) := by
  have hcommand : tool.program :: arguments mapPath key value =
      [tool.program, "map", "update", "pinned", mapPath, "key", "hex"] ++
        (Hex.words key ++ (["value", "hex"] ++ Hex.words value)) := by
    simp [arguments]
  have htail : ["value", "hex"] ++ Hex.words value ≠ [] := by simp
  have hwords : Hex.words key ++ (["value", "hex"] ++ Hex.words value) ≠ [] := by simp
  rw [hcommand, String.intercalate_append_of_ne_nil (by simp) hwords,
    String.intercalate_append_of_ne_nil (Hex.words_ne_nil hkey) htail,
    String.intercalate_append_of_ne_nil (by simp) (Hex.words_ne_nil hvalue)]
  rw [← String.toList_inj]
  simp [commandLine, Hex.text, toString]

/-- The arguments of an update tell its map path, key and value, each at its place. Bytes are told by
their words, which are all the words of two digits in lower case, and by the text of their words with
single spaces between them. Where neither key nor value is empty, as in an entry, the log shows the
program and the arguments of the call, be it made or not. Nothing else is logged about a call, except
that a program that is found is started with a message of its own. -/
theorem command_tells_update :
    (∀ mapPath key value, (arguments mapPath key value)[3]? = some mapPath ∧
      keyWords (arguments mapPath key value) = Hex.words key ∧
      valueWords (arguments mapPath key value) = Hex.words value) ∧
    (∀ mapPath key value mapPath' key' value',
      arguments mapPath key value = arguments mapPath' key' value' →
        mapPath = mapPath' ∧ key = key' ∧ value = value') ∧
    Function.Injective Hex.text ∧ Function.Injective Hex.words ∧
    (∀ ws, (∃ bytes, Hex.words bytes = ws) ↔ ∀ w ∈ ws, Hex.IsWord w) ∧
    (∀ s, (∃ bytes, Hex.text bytes = s) ↔
      ∃ ws, (∀ w ∈ ws, Hex.IsWord w) ∧ s = " ".intercalate ws) ∧
    (∀ (tool : MapTool) machine mapPath key value, key ≠ [] → value ≠ [] →
      let call : Call := ⟨tool.program, arguments mapPath key value⟩
      let shown := " ".intercalate (call.program :: call.arguments)
      let updated := tool.update machine mapPath key value
      (updated.logs = if tool.dryRun then [Log.info s!"dry run: {shown}"]
        else Log.debug shown :: launchLogs machine call.program call.arguments) ∧
      updated.calls = if tool.dryRun = false ∧
        (attempt machine call.program call.arguments).ran = true then [call] else []) ∧
    ∀ (key : Key) (value : Counters), key.bytes ≠ [] ∧ value.bytes ≠ [] := by
  refine ⟨?_, ?_, fun _ _ => Hex.eq_of_text_eq, fun _ _ => Hex.eq_of_words_eq,
    fun _ => Hex.exists_words_iff, ?_, ?_, ?_⟩
  · intro mapPath key value
    exact ⟨rfl, keyWords_arguments, valueWords_arguments⟩
  · intro mapPath key value mapPath' key' value' h
    exact eq_of_arguments_eq h
  · intro s
    simp only [← Hex.exists_words_iff]
    constructor
    · rintro ⟨bytes, rfl⟩
      exact ⟨_, ⟨bytes, rfl⟩, rfl⟩
    · rintro ⟨_, ⟨bytes, rfl⟩, rfl⟩
      exact ⟨bytes, rfl⟩
  · intro tool machine mapPath key value hkey hvalue call shown updated
    have hshown : tool.commandLine mapPath key value = shown := commandLine_eq_intercalate hkey hvalue
    refine ⟨?_, calls_update⟩
    rw [← hshown]
    exact logs_update
  · intro key value
    have hkey : 0 < key.bytes.length := by simp [key.length_bytes]
    have hvalue : 0 < value.bytes.length := by simp [value.length_bytes]
    exact ⟨List.ne_nil_of_length_pos hkey, List.ne_nil_of_length_pos hvalue⟩

/-- An update of a map whose path reads like a part of the command. -/
theorem command_tells_update_at_key_hex :
    let machine : Machine := ⟨fun _ _ => .finished ⟨.ofExit 0, [], []⟩, fun program _ => "/sbin/" ++ program⟩
    let shown := "tool map update pinned key hex key hex 0a value hex ff 00"
    let dry := (MapTool.mk "tool" (.ofMillis 20) true).update machine "key hex" [10] [255, 0]
    let real := (MapTool.mk "tool" (.ofMillis 20) false).update machine "key hex" [10] [255, 0]
    dry.logs = [Log.info ("dry run: " ++ shown)] ∧ dry.calls = [] ∧
      real.logs = [Log.debug shown, Log.debug "running /sbin/tool"] ∧
      real.calls = [⟨"tool", ["map", "update", "pinned", "key hex", "key", "hex", "0a", "value", "hex",
        "ff", "00"]⟩] ∧
      arguments "key hex" [10] [255, 0] ≠ arguments "key" [10] [255, 0] ∧
      Hex.text [10] ≠ Hex.text [10, 0] := by
  intro machine shown dry real
  obtain ⟨-, hunique, htext, -, -, -, hshown, -⟩ := command_tells_update
  obtain ⟨hdry, hsilent⟩ := hshown ⟨"tool", .ofMillis 20, true⟩ machine "key hex" [10] [255, 0]
    (by simp) (by simp)
  obtain ⟨hreal, hcalled⟩ := hshown ⟨"tool", .ofMillis 20, false⟩ machine "key hex" [10] [255, 0]
    (by simp) (by simp)
  refine ⟨hdry, hsilent, hreal, hcalled, ?_, ?_⟩
  · intro h
    have hpath := (hunique _ _ _ _ _ _ h).1
    contradiction
  · intro h
    have hbytes := htext h
    contradiction

end SocketCensus.MapTool
