import Mathlib.Logic.Function.Basic
import Mathlib.Tactic.Common

/-! # Regular expressions with groups

A backtracking matcher, which tries a repetition before it goes on without one and the first
alternative before the second. It finds a match if there is one, and what it finds is a match. -/

namespace Regex

inductive Pattern
  | empty
  | chars (allowed : Char → Bool)
  | seq (first second : Pattern)
  | alt (first second : Pattern)
  | star (body : Pattern)
  | group (index : ℕ) (body : Pattern)

namespace Pattern

def char (char : Char) : Pattern := chars (· == char)

def plus (body : Pattern) : Pattern := seq body (star body)

def optional (body : Pattern) : Pattern := alt body empty

/-- Some class of the pattern has the character. -/
def allows (char : Char) : Pattern → Bool
  | empty => false
  | chars allowed => allowed char
  | seq first second => first.allows char || second.allows char
  | alt first second => first.allows char || second.allows char
  | star body => body.allows char
  | group _ body => body.allows char

end Pattern

/-- What each group matched last. -/
abbrev Groups := ℕ → Option (List Char)

/-- What follows a match: the text that is left, and the groups. -/
abbrev Continuation (β : Type) := List Char → Groups → Option β

variable {β : Type}

/-- Repetitions of `body`, each of which takes something from the text. -/
def repeated (body : List Char → Groups → Continuation β → Option β) :
    ℕ → List Char → Groups → Continuation β → Option β
  | 0, text, groups, next => next text groups
  | fuel + 1, text, groups, next =>
    (body text groups fun rest groups =>
      if rest.length < text.length then repeated body fuel rest groups next else none) <|>
    next text groups

def run : Pattern → List Char → Groups → Continuation β → Option β
  | .empty, text, groups, next => next text groups
  | .chars _, [], _, _ => none
  | .chars allowed, char :: rest, groups, next => if allowed char then next rest groups else none
  | .seq first second, text, groups, next =>
    run first text groups fun rest groups => run second rest groups next
  | .alt first second, text, groups, next => run first text groups next <|> run second text groups next
  | .star body, text, groups, next => repeated (run body) text.length text groups next
  | .group index body, text, groups, next =>
    run body text groups fun rest groups =>
      next rest (Function.update groups index (some (text.take (text.length - rest.length))))

/-- `re.fullmatch`: the groups of a match of the whole text. -/
def fullmatch (pattern : Pattern) (text : List Char) : Option Groups :=
  run pattern text (fun _ => none) fun rest groups => if rest.isEmpty then some groups else none

/-- The texts a pattern matches, and what becomes of the groups. -/
inductive Matches : Pattern → List Char → Groups → Groups → Prop
  | empty {groups : Groups} : Matches .empty [] groups groups
  | chars {allowed : Char → Bool} {char : Char} {groups : Groups} (holds : allowed char = true) :
      Matches (.chars allowed) [char] groups groups
  | seq {first second : Pattern} {text rest : List Char} {before middle after : Groups}
      (one : Matches first text before middle) (two : Matches second rest middle after) :
      Matches (.seq first second) (text ++ rest) before after
  | left {first second : Pattern} {text : List Char} {before after : Groups}
      (one : Matches first text before after) : Matches (.alt first second) text before after
  | right {first second : Pattern} {text : List Char} {before after : Groups}
      (two : Matches second text before after) : Matches (.alt first second) text before after
  | stop {body : Pattern} {groups : Groups} : Matches (.star body) [] groups groups
  | more {body : Pattern} {text rest : List Char} {before middle after : Groups}
      (some_ : text ≠ []) (one : Matches body text before middle)
      (others : Matches (.star body) rest middle after) :
      Matches (.star body) (text ++ rest) before after
  | group {index : ℕ} {body : Pattern} {text : List Char} {before after : Groups}
      (inner : Matches body text before after) :
      Matches (.group index body) text before (Function.update after index (some text))

/-! ### The matcher finds matches only -/

/-- A matcher goes on only from what is left after a match. -/
def Sound (pattern : Pattern) (matcher : List Char → Groups → Continuation β → Option β) : Prop :=
  ∀ (text : List Char) (before : Groups) (next : Continuation β) (result : β),
    matcher text before next = some result → ∃ used rest after,
      text = used ++ rest ∧ Matches pattern used before after ∧ next rest after = some result

theorem repeated_sound {body : Pattern} {matcher : List Char → Groups → Continuation β → Option β}
    (sound : Sound body matcher) (fuel : ℕ) : Sound (.star body) (repeated matcher fuel) := by
  induction fuel with
  | zero =>
    intro text before next result found
    exact ⟨[], text, before, rfl, .stop, found⟩
  | succ fuel ih =>
    intro text before next result found
    rw [repeated, Option.orElse_eq_orElse, Option.orElse_eq_or, Option.or_eq_some_iff] at found
    rcases found with found | ⟨-, found⟩
    · obtain ⟨used, rest, middle, rfl, one, later⟩ := sound text before _ result found
      split at later
      · rename_i shorter
        obtain ⟨others, last, after, rfl, matched, ends⟩ := ih rest middle next result later
        have some_ : used ≠ [] := by
          rintro rfl
          simp at shorter
        exact ⟨used ++ others, last, after, by simp, .more some_ one matched, ends⟩
      · cases later
    · exact ⟨[], text, before, rfl, .stop, found⟩

theorem run_sound (pattern : Pattern) : Sound pattern (run pattern : _ → _ → Continuation β → _) := by
  induction pattern with
  | empty =>
    intro text before next result found
    exact ⟨[], text, before, rfl, .empty, found⟩
  | chars allowed =>
    intro text before next result found
    cases text with
    | nil => cases found
    | cons char rest =>
      rw [run] at found
      split at found
      · rename_i holds
        exact ⟨[char], rest, before, rfl, .chars holds, found⟩
      · cases found
  | seq first second one two =>
    intro text before next result found
    obtain ⟨used, rest, middle, rfl, matched, later⟩ := one text before _ result found
    obtain ⟨others, last, after, rfl, matched', ends⟩ := two rest middle next result later
    exact ⟨used ++ others, last, after, by simp, .seq matched matched', ends⟩
  | alt first second one two =>
    intro text before next result found
    rw [run, Option.orElse_eq_orElse, Option.orElse_eq_or, Option.or_eq_some_iff] at found
    rcases found with found | ⟨-, found⟩
    · obtain ⟨used, rest, after, same, matched, ends⟩ := one text before next result found
      exact ⟨used, rest, after, same, .left matched, ends⟩
    · obtain ⟨used, rest, after, same, matched, ends⟩ := two text before next result found
      exact ⟨used, rest, after, same, .right matched, ends⟩
  | star body ih =>
    intro text before next result found
    exact repeated_sound ih text.length text before next result found
  | group index body ih =>
    intro text before next result found
    obtain ⟨used, rest, after, rfl, matched, ends⟩ := ih text before _ result found
    refine ⟨used, rest, _, rfl, .group matched, ?_⟩
    have taken : (used ++ rest).take ((used ++ rest).length - rest.length) = used := by simp
    rw [taken] at ends
    exact ends

/-! ### The matcher finds a match if there is one -/

/-- A matcher goes on from what is left after a match, unless it succeeds before. -/
def Completes (matcher : List Char → Groups → Continuation β → Option β) (used : List Char)
    (before after : Groups) : Prop :=
  ∀ (rest : List Char) (next : Continuation β), (next rest after).isSome = true →
    (matcher (used ++ rest) before next).isSome = true

theorem orElse_isSome {first second : Option β} :
    (first <|> second).isSome = true ↔ first.isSome = true ∨ second.isSome = true := by
  cases first <;> simp

/-- One more repetition, with fuel for it. -/
theorem Completes.more {matcher : List Char → Groups → Continuation β → Option β}
    {text others : List Char} {before middle after : Groups} (some_ : text ≠ [])
    (one : Completes matcher text before middle)
    (later : ∀ fuel, others.length ≤ fuel → Completes (repeated matcher fuel) others middle after)
    {fuel : ℕ} (enough : (text ++ others).length ≤ fuel) :
    Completes (repeated matcher fuel) (text ++ others) before after := by
  intro rest next goes
  have taken : 0 < text.length := List.length_pos_iff.mpr some_
  rw [List.length_append] at enough
  obtain ⟨fuel, rfl⟩ : ∃ less, fuel = less + 1 := ⟨fuel - 1, by omega⟩
  rw [repeated, orElse_isSome]
  left
  rw [List.append_assoc]
  apply one
  have shorter : (others ++ rest).length < (text ++ (others ++ rest)).length := by
    rw [@List.length_append _ text]
    omega
  rw [if_pos shorter]
  exact later fuel (by omega) rest next goes

theorem repeated_stop (matcher : List Char → Groups → Continuation β → Option β) (fuel : ℕ)
    (groups : Groups) : Completes (repeated matcher fuel) [] groups groups := by
  intro rest next goes
  cases fuel with
  | zero => exact goes
  | succ fuel =>
    rw [repeated, orElse_isSome]
    exact .inr goes

/-- A repetition completes with fuel for each character. -/
theorem run_complete {pattern : Pattern} {used : List Char} {before after : Groups}
    (matched : Matches pattern used before after) :
    Completes (run pattern : _ → _ → Continuation β → _) used before after ∧
      ∀ body, pattern = .star body → ∀ fuel, used.length ≤ fuel →
        Completes (repeated (run body) fuel : _ → _ → Continuation β → _) used before after := by
  induction matched with
  | empty => exact ⟨fun _ _ goes => goes, fun _ => nofun⟩
  | chars holds =>
    refine ⟨fun rest next goes => ?_, fun _ => nofun⟩
    rw [List.singleton_append, run, if_pos holds]
    exact goes
  | seq one two first second =>
    refine ⟨fun rest next goes => ?_, fun _ => nofun⟩
    rw [List.append_assoc, run]
    exact first.1 _ _ (second.1 rest next goes)
  | left one first =>
    refine ⟨fun rest next goes => ?_, fun _ => nofun⟩
    rw [run, orElse_isSome]
    exact .inl (first.1 rest next goes)
  | right two second =>
    refine ⟨fun rest next goes => ?_, fun _ => nofun⟩
    rw [run, orElse_isSome]
    exact .inr (second.1 rest next goes)
  | stop =>
    refine ⟨fun rest next goes => repeated_stop _ _ _ rest next goes, ?_⟩
    rintro _ - fuel -
    exact repeated_stop _ fuel _
  | more some_ one others first later =>
    have whole := fun (fuel : ℕ) enough =>
      @Completes.more β _ _ _ _ _ _ some_ first.1 (later.2 _ rfl) fuel enough
    refine ⟨fun rest next goes => ?_, ?_⟩
    · rw [run]
      exact whole _ (by simp) rest next goes
    · rintro _ ⟨⟩ fuel enough
      exact whole fuel enough
  | group inner ih =>
    refine ⟨fun rest next goes => ?_, fun _ => nofun⟩
    rename_i index body text before after
    rw [run]
    apply ih.1
    have taken : (text ++ rest).take ((text ++ rest).length - rest.length) = text := by simp
    rw [taken]
    exact goes

/-! ### Whole texts -/

theorem fullmatch_matches {pattern : Pattern} {text : List Char} {groups : Groups}
    (found : fullmatch pattern text = some groups) :
    Matches pattern text (fun _ => none) groups := by
  obtain ⟨used, rest, after, rfl, matched, ends⟩ := run_sound pattern text _ _ _ found
  split at ends
  · rename_i done
    obtain rfl := List.isEmpty_iff.mp done
    cases ends
    rw [List.append_nil]
    exact matched
  · cases ends

theorem fullmatch_of_matches {pattern : Pattern} {text : List Char} {groups : Groups}
    (matched : Matches pattern text (fun _ => none) groups) :
    ∃ found, fullmatch pattern text = some found := by
  have goes := (run_complete matched).1 [] (fun rest groups =>
    if rest.isEmpty then some groups else none) rfl
  rw [List.append_nil] at goes
  exact Option.isSome_iff_exists.mp goes

theorem Matches.allows {pattern : Pattern} {text : List Char} {before after : Groups}
    (matched : Matches pattern text before after) :
    ∀ char ∈ text, pattern.allows char = true := by
  induction matched with
  | empty => exact fun _ => nofun
  | chars holds =>
    intro char member
    rw [List.mem_singleton.mp member]
    exact holds
  | seq one two first second =>
    intro char member
    rw [Pattern.allows, Bool.or_eq_true]
    rcases List.mem_append.mp member with early | late
    · exact .inl (first char early)
    · exact .inr (second char late)
  | left one first =>
    intro char member
    rw [Pattern.allows, first char member, Bool.true_or]
  | right two second =>
    intro char member
    rw [Pattern.allows, second char member, Bool.or_true]
  | stop => exact fun _ => nofun
  | more some_ one others first later =>
    intro char member
    rcases List.mem_append.mp member with early | late
    · exact first char early
    · exact later char late
  | group inner ih => exact ih

/-! ### What patterns match -/

section Language

variable {pattern first second : Pattern} {text : List Char} {before after : Groups}

theorem matches_empty : Matches .empty text before after ↔ text = [] ∧ after = before := by
  constructor
  · rintro ⟨⟩
    exact ⟨rfl, rfl⟩
  · rintro ⟨rfl, rfl⟩
    exact .empty

theorem matches_chars {allowed : Char → Bool} :
    Matches (.chars allowed) text before after ↔
      (∃ char, allowed char = true ∧ text = [char]) ∧ after = before := by
  constructor
  · intro matched
    cases matched with
    | chars holds => exact ⟨⟨_, holds, rfl⟩, rfl⟩
  · rintro ⟨⟨char, holds, rfl⟩, rfl⟩
    exact .chars holds

theorem matches_char {char : Char} :
    Matches (.char char) text before after ↔ text = [char] ∧ after = before := by
  rw [Pattern.char, matches_chars]
  simp

theorem matches_seq : Matches (.seq first second) text before after ↔
    ∃ one two middle, text = one ++ two ∧ Matches first one before middle ∧
      Matches second two middle after := by
  constructor
  · intro matched
    cases matched with
    | seq one two => exact ⟨_, _, _, rfl, one, two⟩
  · rintro ⟨one, two, middle, rfl, matched, matched'⟩
    exact .seq matched matched'

theorem matches_alt : Matches (.alt first second) text before after ↔
    Matches first text before after ∨ Matches second text before after := by
  constructor
  · intro matched
    cases matched with
    | left one => exact .inl one
    | right two => exact .inr two
  · rintro (one | two)
    · exact .left one
    · exact .right two

theorem matches_optional : Matches (.optional pattern) text before after ↔
    Matches pattern text before after ∨ (text = [] ∧ after = before) := by
  rw [Pattern.optional, matches_alt, matches_empty]

theorem matches_group {index : ℕ} : Matches (.group index pattern) text before after ↔
    ∃ middle, Matches pattern text before middle ∧
      after = Function.update middle index (some text) := by
  constructor
  · intro matched
    cases matched with
    | group inner => exact ⟨_, inner, rfl⟩
  · rintro ⟨middle, inner, rfl⟩
    exact .group inner

/-- A pattern without groups matches the texts of a language. -/
def Reads (pattern : Pattern) (language : List Char → Prop) : Prop :=
  ∀ text before after, Matches pattern text before after ↔ language text ∧ after = before

theorem reads_chars (allowed : Char → Bool) :
    Reads (.chars allowed) fun text => ∃ char, allowed char = true ∧ text = [char] :=
  fun _ _ _ => matches_chars

theorem reads_char (char : Char) : Reads (.char char) fun text => text = [char] :=
  fun _ _ _ => matches_char

theorem Reads.seq {one two : List Char → Prop} (reads : Reads first one) (reads' : Reads second two) :
    Reads (.seq first second) fun text =>
      ∃ start rest, text = start ++ rest ∧ one start ∧ two rest := by
  intro text before after
  rw [matches_seq]
  constructor
  · rintro ⟨start, rest, middle, rfl, matched, matched'⟩
    obtain ⟨holds, rfl⟩ := (reads start before middle).mp matched
    obtain ⟨holds', rfl⟩ := (reads' rest middle after).mp matched'
    exact ⟨⟨start, rest, rfl, holds, holds'⟩, rfl⟩
  · rintro ⟨⟨start, rest, rfl, holds, holds'⟩, rfl⟩
    exact ⟨start, rest, _, rfl, (reads _ _ _).mpr ⟨holds, rfl⟩, (reads' _ _ _).mpr ⟨holds', rfl⟩⟩

theorem Reads.alt {one two : List Char → Prop} (reads : Reads first one) (reads' : Reads second two) :
    Reads (.alt first second) fun text => one text ∨ two text := by
  intro text before after
  rw [matches_alt, reads, reads', ← or_and_right]

theorem Reads.weaken {one two : List Char → Prop} (reads : Reads pattern one)
    (same : ∀ text, one text ↔ two text) : Reads pattern two := by
  intro text before after
  rw [reads, same]

/-- The repetitions of a pattern that takes something match the texts put together of its own. -/
theorem Reads.star {language : List Char → Prop} (reads : Reads pattern language)
    (proper : ∀ text, language text → text ≠ []) :
    Reads (.star pattern) fun text =>
      ∃ items : List (List Char), text = items.flatten ∧ ∀ item ∈ items, language item := by
  intro text before after
  constructor
  · intro matched
    generalize whole : Pattern.star pattern = starred at matched
    induction matched with
    | stop => exact ⟨⟨[], rfl, by simp⟩, rfl⟩
    | more some_ one others _ ih =>
      cases whole
      obtain ⟨holds, rfl⟩ := (reads _ _ _).mp one
      obtain ⟨⟨items, rfl, each⟩, rfl⟩ := ih rfl
      refine ⟨⟨_ :: items, rfl, ?_⟩, rfl⟩
      intro item member
      rcases List.mem_cons.mp member with rfl | member
      · exact holds
      · exact each item member
    | _ => cases whole
  · rintro ⟨⟨items, rfl, each⟩, rfl⟩
    induction items with
    | nil => exact .stop
    | cons item items ih =>
      have holds := each item (.head _)
      exact .more (proper item holds) ((reads _ _ _).mpr ⟨holds, rfl⟩)
        (ih fun other member => each other (.tail _ member))

theorem reads_star_chars (allowed : Char → Bool) :
    Reads (.star (.chars allowed)) fun text => ∀ char ∈ text, allowed char = true := by
  apply ((reads_chars allowed).star (by rintro _ ⟨char, -, rfl⟩; simp)).weaken
  intro text
  constructor
  · rintro ⟨items, rfl, each⟩ char member
    obtain ⟨item, inside, found⟩ := List.mem_flatten.mp member
    obtain ⟨other, holds, rfl⟩ := each item inside
    rw [List.mem_singleton.mp found]
    exact holds
  · intro each
    have singles : text = (text.map fun char => [char]).flatten := by
      induction text with
      | nil => rfl
      | cons char text ih =>
        rw [List.map_cons, List.flatten_cons, ← ih fun other member => each other (.tail _ member)]
        rfl
    refine ⟨text.map fun char => [char], singles, ?_⟩
    intro item member
    obtain ⟨char, inside, rfl⟩ := List.mem_map.mp member
    exact ⟨char, each char inside, rfl⟩

theorem intercalate_cons_flatten (separator : Char) (first : List Char) (others : List (List Char)) :
    [separator].intercalate (first :: others) =
      first ++ (others.map (separator :: ·)).flatten := by
  induction others generalizing first with
  | nil => simp
  | cons other others ih =>
    rw [List.intercalate_cons_cons, ih other]
    simp

/-- Items with a separator between each two of them. -/
theorem Reads.separated {language : List Char → Prop} (reads : Reads pattern language)
    (separator : Char) :
    Reads (.seq pattern (.star (.seq (.char separator) pattern))) fun text =>
      ∃ items, items ≠ [] ∧ text = [separator].intercalate items ∧ ∀ item ∈ items, language item := by
  have later : Reads (.star (.seq (.char separator) pattern)) _ :=
    ((reads_char separator).seq reads).star (by rintro _ ⟨_, _, rfl, rfl, -⟩; simp)
  apply (reads.seq later).weaken
  intro text
  constructor
  · rintro ⟨first, _, rfl, holds, items, rfl, each⟩
    have split : ∃ others : List (List Char), items = others.map (separator :: ·) ∧
        ∀ other ∈ others, language other := by
      clear holds
      induction items with
      | nil => exact ⟨[], rfl, by simp⟩
      | cons item items ih =>
        obtain ⟨_, rest, rfl, rfl, holds⟩ := each _ (.head _)
        obtain ⟨others, rfl, all⟩ := ih fun other member => each other (.tail _ member)
        refine ⟨rest :: others, rfl, ?_⟩
        intro other member
        rcases List.mem_cons.mp member with rfl | member
        · exact holds
        · exact all other member
    obtain ⟨others, rfl, all⟩ := split
    refine ⟨first :: others, by simp, (intercalate_cons_flatten separator first others).symm, ?_⟩
    intro item member
    rcases List.mem_cons.mp member with rfl | member
    · exact holds
    · exact all item member
  · rintro ⟨items, some_, rfl, each⟩
    cases items with
    | nil => exact absurd rfl some_
    | cons first others =>
      refine ⟨first, _, intercalate_cons_flatten separator first others, each first (.head _),
        _, rfl, ?_⟩
      intro item member
      obtain ⟨other, inside, rfl⟩ := List.mem_map.mp member
      exact ⟨[separator], other, rfl, rfl, each other (.tail _ inside)⟩

end Language

end Regex
