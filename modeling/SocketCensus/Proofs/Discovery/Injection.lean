import Mathlib.Algebra.Group.Nat.Defs
import SocketCensus.Proofs.Discovery.Naming

/-!
What the name of a process can do to a line. The listing puts the owners of a socket into groups
with their names as they are, and the scan does not know where a name begins or ends. A name
injects a process if it names one at a place that a delimiter of its own closes; then, and only
then, a line names processes other than its owners.
-/
namespace SocketCensus

structure OwnerGroup where
  name : List Char
  pid : List Char
  descriptor : List Char
  pid_ne : pid ≠ []
  pid_all : pid.all Decimal.isDigit = true
  descriptor_all : descriptor.all Decimal.isDigit = true

namespace OwnerGroup

def number (g : OwnerGroup) : Nat := Decimal.value g.pid

def text (g : OwnerGroup) : List Char :=
  ['(', '"'] ++ (g.name ++ ['"']) ++ [','] ++ (Marker.marker ++ g.pid) ++ [','] ++
    (['f', 'd', '='] ++ g.descriptor ++ [')'])

end OwnerGroup

namespace Marker

open OwnerGroup

variable {name : List Char} {p : Pid}

/-- The line of a socket: some columns and the groups of its owners. -/
def ownersLine (columns : List Char) (groups : List OwnerGroup) : List Char :=
  columns ++ (['u', 's', 'e', 'r', 's', ':', '('] ++
    ([','].intercalate (groups.map OwnerGroup.text) ++ [')']))

/-- The name of a process injects another one: a delimiter within the name ends the number. -/
def Injects (name : List Char) (p : Pid) : Prop := ∃ n : Naming name, n.after ≠ [] ∧ n.pid = p

theorem isWord_bracket : Text.isWord '(' = false ∧ Text.isWord ')' = false ∧
    Text.isWord '"' = false := by
  decide +kernel

theorem scan_group (g : OwnerGroup) (rest : List Char) :
    scan .ready (g.text ++ rest) =
      scan .ready (g.name ++ ['"']) ++ (tokenPid? g.pid).toList ++ scan .ready rest := by
  have hopen (tail : List Char) : scan .ready (['(', '"'] ++ tail) = scan .ready tail := by
    rw [scan_of_not_mem (by decide) (by decide)]
    simp [Mode.afterText, Mode.after, isWord_bracket]
  have hdigits : 'p' ∉ g.descriptor := by
    intro hmem
    have hp := List.all_eq_true.mp g.descriptor_all 'p' hmem
    contradiction
  have hclose : scan .ready ((['f', 'd', '='] ++ g.descriptor ++ [')']) ++ rest) =
      scan .ready rest := by
    rw [scan_of_not_mem (by simp [hdigits]) (by decide)]
    simp [Mode.afterText, Mode.after, isWord_bracket]
  have hcomma : isDelimiter ',' = true := by decide
  calc
    scan .ready (g.text ++ rest) =
        scan .ready (['(', '"'] ++ ((g.name ++ ['"']) ++ ',' :: ((marker ++ g.pid) ++
          ',' :: ((['f', 'd', '='] ++ g.descriptor ++ [')']) ++ rest)))) := by
      simp [OwnerGroup.text]
    _ = scan .ready (g.name ++ ['"']) ++ (scan .ready (marker ++ g.pid) ++ scan .ready rest) := by
      rw [hopen, scan_append_delimiter hcomma, scan_append_delimiter hcomma, hclose]
    _ = scan .ready (g.name ++ ['"']) ++ (tokenPid? g.pid).toList ++ scan .ready rest := by
      rw [scan_marker_append (free_of_all_isDigit g.pid_all), List.append_assoc]

theorem scan_groups (groups : List OwnerGroup) :
    scan .ready ([','].intercalate (groups.map OwnerGroup.text) ++ [')']) =
      groups.flatMap fun g => scan .ready (g.name ++ ['"']) ++ (tokenPid? g.pid).toList := by
  have hend : scan .ready [')'] = [] := scan_eq_nil_of_unmarked (unmarked_of_not_mem (by decide))
  induction groups with
  | nil => simpa using hend
  | cons g rest ih =>
    cases rest with
    | nil => simpa [hend] using scan_group g [')']
    | cons next rest =>
      have hcomma : isDelimiter ',' = true := by decide
      rw [List.flatMap_cons, ← ih, List.map_cons, List.map_cons, List.intercalate_cons_cons,
        List.append_assoc, List.append_assoc, scan_group, List.singleton_append,
        scan_cons_delimiter hcomma]

theorem pidsOfLine_ownersLine {columns : List Char} (hcolumns : ¬ marker <:+: columns)
    (groups : List OwnerGroup) :
    pidsOfLine (ownersLine columns groups) =
      groups.flatMap fun g => scan .ready (g.name ++ ['"']) ++ (tokenPid? g.pid).toList := by
  have hunmarked : Unmarked columns := by
    intro before after heq
    exact absurd ⟨before, after, heq.symm⟩ hcolumns
  rw [pidsOfLine, ownersLine, scan_of_unmarked hunmarked (by simp),
    scan_of_not_mem (by decide) (afterText_ne_inToken (by decide) columns), ← scan_groups groups]
  simp [Mode.afterText, Mode.after, isWord_bracket]

/-- The quote that closes a name belongs to no number and is no delimiter, so that a place in a
quoted name is closed before the quote. -/
theorem exists_after_of_quoted (n : Naming (name ++ ['"'])) :
    ∃ after, after ≠ [] ∧ n.after = after ++ ['"'] := by
  have hquoted := n.text_eq
  rcases List.eq_nil_or_concat n.after with hafter | ⟨front, last, hafter⟩
  · obtain ⟨digits, digit, hdigits⟩ := (List.eq_nil_or_concat n.digits).resolve_left n.digits_ne
    have hdigit : Decimal.isDigit digit = true :=
      List.all_eq_true.mp n.digits_all digit (by simp [hdigits])
    have hlast := congrArg List.getLast? hquoted
    rw [hafter, hdigits, List.append_nil] at hlast
    simp at hlast
    rw [← hlast] at hdigit
    contradiction
  · rw [List.concat_eq_append] at hafter
    have hlast := congrArg List.getLast? hquoted
    rw [hafter, ← List.append_assoc, List.getLast?_concat, List.getLast?_concat] at hlast
    have hquote : '"' = last := Option.some.inj hlast
    subst hquote
    refine ⟨front, ?_, hafter⟩
    intro hnil
    have hdelimiter := n.closed '"' (by simp [hafter, hnil])
    contradiction

/-- A quoted name names what the name injects. -/
theorem mem_scan_quoted_iff : p ∈ scan .ready (name ++ ['"']) ↔ Injects name p := by
  rw [mem_scan_iff]
  constructor
  · intro hnamed
    obtain ⟨n, rfl⟩ := hnamed
    obtain ⟨after, hne, hafter⟩ := exists_after_of_quoted n
    obtain ⟨c, rest, rfl⟩ := List.exists_cons_of_ne_nil hne
    have hquoted := n.text_eq
    rw [hafter, ← List.append_assoc] at hquoted
    have hname := List.append_cancel_right hquoted
    refine ⟨{ n with after := c :: rest, text_eq := hname, closed := ?_ }, hne, rfl⟩
    intro x hx
    exact n.closed x (by simpa [hafter] using hx)
  · intro hinjects
    obtain ⟨n, hne, rfl⟩ := hinjects
    obtain ⟨c, rest, hafter⟩ := List.exists_cons_of_ne_nil hne
    refine ⟨{ n with after := n.after ++ ['"'], text_eq := ?_, closed := ?_ }, rfl⟩
    · calc
        name ++ ['"'] = n.before ++ (n.inner ++ marker ++ n.digits) ++ n.after ++ ['"'] := by
          rw [← n.text_eq]
        _ = n.before ++ (n.inner ++ marker ++ n.digits) ++ (n.after ++ ['"']) := by
          rw [List.append_assoc]
    · intro x hx
      exact n.closed x (by simpa [hafter] using hx)

/-- Without commas and white space a name injects nothing. -/
theorem not_injects_of_free (hname : Free name) : ¬ Injects name p := by
  intro hinjects
  obtain ⟨n, hafter, -⟩ := hinjects
  obtain ⟨c, rest, hrest⟩ := List.exists_cons_of_ne_nil hafter
  have hdelimiter := n.closed c (by simp [hrest])
  have hmem : c ∈ name := by
    rw [n.text_eq, hrest]
    simp
  rw [hname c hmem] at hdelimiter
  contradiction

/-- A line names its owners and the processes that their names inject. So it names its owners
alone exactly if no name injects another process, as when no name holds a delimiter. -/
theorem ownersLine_names_iff {columns : List Char} (hcolumns : ¬ marker <:+: columns)
    (groups : List OwnerGroup) :
    (∀ p, p ∈ pidsOfLine (ownersLine columns groups) ↔
      (∃ g ∈ groups, g.number ≤ 2 ^ 63 - 1 ∧ p = g.number) ∨ ∃ g ∈ groups, Injects g.name p) ∧
    ((∀ p ∈ pidsOfLine (ownersLine columns groups), ∃ g ∈ groups, p = g.number) ↔
      ∀ g ∈ groups, ∀ p, Injects g.name p → ∃ owner ∈ groups, p = owner.number) ∧
    ((∀ g ∈ groups, Free g.name) →
      ∀ p ∈ pidsOfLine (ownersLine columns groups), ∃ g ∈ groups, p = g.number) := by
  have hmem (p : Pid) : p ∈ pidsOfLine (ownersLine columns groups) ↔
      (∃ g ∈ groups, g.number ≤ 2 ^ 63 - 1 ∧ p = g.number) ∨ ∃ g ∈ groups, Injects g.name p := by
    have hown (g : OwnerGroup) : p ∈ (tokenPid? g.pid).toList ↔
        g.number ≤ 2 ^ 63 - 1 ∧ p = g.number := by
      rw [Option.mem_toList, tokenPid?_eq_some_iff]
      constructor
      · intro htoken
        obtain ⟨⟨-, -, hfits⟩, hp⟩ := htoken
        exact ⟨hfits, hp⟩
      · intro howner
        exact ⟨⟨g.pid_ne, g.pid_all, howner.1⟩, howner.2⟩
    rw [pidsOfLine_ownersLine hcolumns, List.mem_flatMap]
    simp only [List.mem_append, mem_scan_quoted_iff, hown]
    constructor
    · intro hp
      rcases hp with ⟨g, hg, hinjects | howner⟩
      · exact Or.inr ⟨g, hg, hinjects⟩
      · exact Or.inl ⟨g, hg, howner⟩
    · intro hp
      rcases hp with ⟨g, hg, howner⟩ | ⟨g, hg, hinjects⟩
      · exact ⟨g, hg, Or.inr howner⟩
      · exact ⟨g, hg, Or.inl hinjects⟩
  have howned
      (hinjected : ∀ g ∈ groups, ∀ p, Injects g.name p → ∃ owner ∈ groups, p = owner.number) :
      ∀ p ∈ pidsOfLine (ownersLine columns groups), ∃ g ∈ groups, p = g.number := by
    intro p hp
    rcases (hmem p).mp hp with ⟨g, hg, -, hnumber⟩ | ⟨g, hg, hinjects⟩
    · exact ⟨g, hg, hnumber⟩
    · exact hinjected g hg p hinjects
  refine ⟨hmem, ⟨?_, howned⟩, ?_⟩
  · intro honly g hg p hinjects
    exact honly p ((hmem p).mpr (Or.inr ⟨g, hg, hinjects⟩))
  · intro hfree
    apply howned
    intro g hg p hinjects
    exact absurd hinjects (not_injects_of_free (hfree g hg))

def forging : OwnerGroup where
  name := ['a', ' ', 'p', 'i', 'd', '=', '7', ' ', 'b']
  pid := ['1', '0', '0']
  descriptor := ['3']
  pid_ne := by decide
  pid_all := by decide
  descriptor_all := by decide

theorem ownersLine_names_seven :
    ¬ marker <:+: ['t', 'c', 'p', ' '] ∧ Injects forging.name 7 ∧
      7 ∈ pidsOfLine (ownersLine ['t', 'c', 'p', ' '] [forging]) ∧
      100 ∈ pidsOfLine (ownersLine ['t', 'c', 'p', ' '] [forging]) := by
  have hcolumns : ¬ marker <:+: ['t', 'c', 'p', ' '] := by decide
  have hspace : isDelimiter ' ' = true := by decide
  have hinjects : Injects forging.name 7 :=
    ⟨{ before := ['a', ' ']
       inner := []
       digits := ['7']
       after := [' ', 'b']
       text_eq := rfl
       opened := by simpa using hspace
       closed := by simpa using hspace
       inner_free := by simp [Free]
       inner_unmarked := by simp [Unmarked, marker]
       inner_boundary := by simp [AtBoundary]
       digits_ne := by decide
       digits_all := by decide
       fits := by decide }, List.cons_ne_nil _ _, rfl⟩
  obtain ⟨hmem, -⟩ := ownersLine_names_iff hcolumns [forging]
  exact ⟨hcolumns, hinjects, (hmem 7).mpr (Or.inr ⟨forging, by simp, hinjects⟩),
    (hmem 100).mpr (Or.inl ⟨forging, by simp, by decide, rfl⟩)⟩

/-- A line may name a process that is none of its owners. -/
theorem ownersLine_names_stranger :
    ownersLine [] [forging] = "users:((\"a pid=7 b\",pid=100,fd=3))".toList ∧
      pidsOfLine (ownersLine [] [forging]) = [7, 100] ∧
      ¬ ∀ p ∈ pidsOfLine (ownersLine [] [forging]), ∃ g ∈ [forging], p = g.number := by
  have hpids : pidsOfLine (ownersLine [] [forging]) = [7, 100] := by decide +kernel
  have hstranger : (7 : Pid) ≠ forging.number := by decide
  refine ⟨by decide, hpids, ?_⟩
  intro howned
  obtain ⟨g, hg, hnumber⟩ := howned 7 (by simp [hpids])
  rw [List.mem_singleton.mp hg] at hnumber
  exact hstranger hnumber

end Marker
end SocketCensus
