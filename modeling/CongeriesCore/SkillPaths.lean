import CongeriesCore.SkillGateway

/-! # Paths of Skill resources

Which texts a resource descriptor takes as a path. The check parses the text as a path, which
drops what is spurious in it, and compares the path's text with what was parsed. -/

namespace CongeriesCore

/-- A path of `pathlib`: the slashes it starts with, and its parts after them. -/
structure PurePosixPath where
  root : List Char
  tail : List (List Char)

namespace PurePosixPath

/-- The root of a path: two slashes stay two, any other number of them is one. -/
def rootOf : List Char → List Char
  | '/' :: '/' :: '/' :: _ => ['/']
  | '/' :: '/' :: _ => ['/', '/']
  | '/' :: _ => ['/']
  | _ => []

/-- Spurious slashes and single dots are dropped, double dots are kept. -/
def parse (value : String) : PurePosixPath where
  root := rootOf value.toList
  tail := (value.toList.splitOn '/').filter fun part => !([[], ['.']].contains part)

def parts (path : PurePosixPath) : List (List Char) :=
  if path.root.isEmpty then path.tail else path.root :: path.tail

/-- `__str__`: a path without parts is `.`. -/
def text (path : PurePosixPath) : String :=
  if path.root.isEmpty && path.tail.isEmpty then "."
  else String.ofList (path.root ++ ['/'].intercalate path.tail)

end PurePosixPath

/-- `_require_resource_path`. -/
def requireResourcePath (value : String) : Except Raised Unit := do
  requireValue (value != "" && value == strip value && !value.toList.contains '\\' &&
      value.toList.head? != some '/')
    "Skill resource path must be a trimmed relative POSIX path"
  let path := PurePosixPath.parse value
  requireValue (!(path.parts.any fun part => [[], ['.'], ['.', '.']].contains part) &&
      path.text == value)
    "Skill resource path must be normalized and traversal-free"

/-- The segments of a path have a name each. -/
def isSegment (part : List Char) : Bool := !([[], ['.'], ['.', '.']].contains part)

theorem isSegment_iff {part : List Char} :
    isSegment part = true ↔ part ≠ [] ∧ part ≠ ['.'] ∧ part ≠ ['.', '.'] := by
  simp [isSegment]

namespace PurePosixPath

theorem rootOf_relative {value : List Char} (relative : value.head? ≠ some '/') :
    rootOf value = [] := by
  unfold rootOf
  split
  · simp at relative
  · simp at relative
  · simp at relative
  · rfl

/-- What the tail of a path keeps of the pieces of its text. -/
theorem mem_tail {value : String} {part : List Char} (member : part ∈ (parse value).tail) :
    part ∈ value.toList.splitOn '/' := (List.mem_filter.mp member).1

/-- A relative path with parts has the text that the parts spell. -/
theorem text_relative {path : PurePosixPath} (relative : path.root = []) (some_ : path.tail ≠ []) :
    path.text = String.ofList (['/'].intercalate path.tail) := by
  have nonempty : path.tail.isEmpty = false := by simpa using some_
  simp [text, relative, nonempty]

/-- The parse of a text of segments drops nothing. -/
theorem tail_segments {value : String}
    (segments : ∀ part ∈ value.toList.splitOn '/', isSegment part = true) :
    (parse value).tail = value.toList.splitOn '/' := by
  apply List.filter_eq_self.mpr
  intro part member
  obtain ⟨nonempty, dot, -⟩ := isSegment_iff.mp (segments part member)
  simp [nonempty, dot]

/-- A path whose text is what was parsed dropped nothing of it. -/
theorem tail_of_text {value : String} (relative : (parse value).root = [])
    (some_ : (parse value).tail ≠ []) (same : (parse value).text = value) :
    value.toList.splitOn '/' = (parse value).tail := by
  have plain : ∀ part ∈ (parse value).tail, '/' ∉ part := fun part member =>
    JoinedText.not_mem_of_mem_splitOn (mem_tail member)
  have spelled := congrArg String.toList same
  rw [text_relative relative some_, String.toList_ofList] at spelled
  rw [← spelled]
  exact List.splitOn_intercalate '/' plain some_

end PurePosixPath

theorem relative_of_segments {value : List Char}
    (segments : ∀ part ∈ value.splitOn '/', isSegment part = true) : value.head? ≠ some '/' := by
  intro slash
  obtain ⟨rest, spelled⟩ := List.head?_eq_some_iff.mp slash
  have empty : [] ∈ value.splitOn '/' := by
    rw [spelled, List.splitOn_cons_eq_if_modifyHead]
    simp
  exact (isSegment_iff.mp (segments [] empty)).1 rfl

/-- What the first check lets through. -/
theorem relativePath_iff {value : String} :
    (value != "" && value == strip value && !value.toList.contains '\\' &&
      value.toList.head? != some '/') = true ↔
    isTrimmed value = true ∧ '\\' ∉ value.toList ∧ value.toList.head? ≠ some '/' := by
  simp [isTrimmed, and_assoc]

theorem isResourcePath_iff {value : String} :
    isResourcePath value = true ↔ isTrimmed value = true ∧ '\\' ∉ value.toList ∧
      (value = "." ∨ ∀ part ∈ value.toList.splitOn '/', isSegment part = true) := by
  simp [isResourcePath, isSegment, and_assoc]

/-- The field of a descriptor holds what the check lets through. -/
theorem requireResourcePath_iff {value : String} :
    requireResourcePath value = .ok () ↔ isResourcePath value = true := by
  rw [isResourcePath_iff]
  constructor
  · intro accepted
    obtain ⟨_, first, rest⟩ := bind_ok accepted
    obtain ⟨trimmed, plain, relative⟩ := relativePath_iff.mp (requireValue_eq_ok.mp first)
    refine ⟨trimmed, plain, ?_⟩
    have normal := requireValue_eq_ok.mp rest
    rw [Bool.and_eq_true, beq_iff_eq] at normal
    have root : (PurePosixPath.parse value).root = [] := PurePosixPath.rootOf_relative relative
    by_cases none : (PurePosixPath.parse value).tail = []
    · left
      rw [← normal.2]
      simp [PurePosixPath.text, root, none]
    · right
      rw [PurePosixPath.tail_of_text root none normal.2]
      intro part member
      have legal := normal.1
      simp only [PurePosixPath.parts, root, List.isEmpty_nil, if_true, Bool.not_eq_true',
        List.any_eq_false] at legal
      simpa [isSegment] using legal part member
  · rintro ⟨trimmed, plain, rfl | segments⟩
    · rfl
    · have relative := relative_of_segments segments
      have root : (PurePosixPath.parse value).root = [] := PurePosixPath.rootOf_relative relative
      have tail := PurePosixPath.tail_segments segments
      have some_ : (PurePosixPath.parse value).tail ≠ [] := by
        rw [tail]
        exact List.splitOn_ne_nil _ _
      have text : (PurePosixPath.parse value).text = value := by
        rw [PurePosixPath.text_relative root some_, tail, List.intercalate_splitOn,
          String.ofList_toList]
      have legal : ((PurePosixPath.parse value).parts.any fun part =>
          [[], ['.'], ['.', '.']].contains part) = false := by
        rw [List.any_eq_false]
        intro part member
        simp only [PurePosixPath.parts, root, List.isEmpty_nil, if_true, tail] at member
        simpa [isSegment] using segments part member
      rw [requireResourcePath, relativePath_iff.mpr ⟨trimmed, plain, relative⟩]
      change requireValue _ _ = _
      rw [legal, text]
      simp

/-! ### Descriptors -/

/-- The constructor call: raises what `__post_init__` raises. -/
def SkillResourceDescriptor.make (resourceId : ResourceId) (kind : SkillResourceKind)
    (path mediaType : String) (maxBytes : ℕ) (action : ActionRef := skillResourceReadAction) :
    Except Raised SkillResourceDescriptor :=
  match checked : requireResourcePath path with
  | .error error => .error error
  | .ok () =>
    if typed : isTrimmed mediaType = true then
      if positive : 1 ≤ maxBytes then
        .ok ⟨resourceId, kind, path, mediaType, maxBytes, action,
          requireResourcePath_iff.mp checked, typed, positive⟩
      else .error (.value "Skill resource max_bytes must be positive")
    else .error (.value "Skill resource media type must be non-empty and trimmed")

/-- Some descriptor has the path. -/
def AcceptsPath (path : String) : Prop :=
  ∃ resourceId kind mediaType maxBytes action descriptor,
    SkillResourceDescriptor.make resourceId kind path mediaType maxBytes action = .ok descriptor

/-- A sequence of segments, none of them empty, `.` or `..`, without white space around it and
without a backslash. -/
def CanonicalPath (path : String) : Prop :=
  strip path = path ∧ '\\' ∉ path.toList ∧
    ∃ segments : List String, segments ≠ [] ∧ path = "/".intercalate segments ∧
      ∀ segment ∈ segments, '/' ∉ segment.toList ∧ segment ≠ "" ∧ segment ≠ "." ∧ segment ≠ ".."

theorem acceptsPath_iff {path : String} : AcceptsPath path ↔ isResourcePath path = true := by
  constructor
  · rintro ⟨resourceId, kind, mediaType, maxBytes, action, descriptor, made⟩
    unfold SkillResourceDescriptor.make at made
    split at made
    · cases made
    · rename_i checked
      exact requireResourcePath_iff.mp checked
  · intro valid
    have checked := requireResourcePath_iff.mpr valid
    refine ⟨⟨"resource", by decide⟩, .reference, "text/plain", 1, skillResourceReadAction, ?_⟩
    unfold SkillResourceDescriptor.make
    split
    · rename_i refused
      rw [checked] at refused
      cases refused
    · exact ⟨_, rfl⟩

theorem toList_intercalate_slash (segments : List String) :
    ("/".intercalate segments).toList = ['/'].intercalate (segments.map String.toList) := by
  rw [String.toList_intercalate]
  rfl

/-- The segments of a path are the pieces between its slashes. -/
theorem canonicalPath_iff {path : String} :
    CanonicalPath path ↔ strip path = path ∧ '\\' ∉ path.toList ∧
      ∀ part ∈ path.toList.splitOn '/', isSegment part = true := by
  constructor
  · rintro ⟨stripped, plain, segments, some_, rfl, legal⟩
    refine ⟨stripped, plain, ?_⟩
    have apart : ∀ part ∈ segments.map String.toList, '/' ∉ part := by
      intro part member
      obtain ⟨segment, inside, rfl⟩ := List.mem_map.mp member
      exact (legal segment inside).1
    rw [toList_intercalate_slash, List.splitOn_intercalate '/' apart (by simpa using some_)]
    intro part member
    obtain ⟨segment, inside, rfl⟩ := List.mem_map.mp member
    obtain ⟨-, nonempty, dot, dots⟩ := legal segment inside
    exact isSegment_iff.mpr ⟨fun same => nonempty (String.toList_inj.mp same),
      fun same => dot (String.toList_inj.mp same), fun same => dots (String.toList_inj.mp same)⟩
  · rintro ⟨stripped, plain, legal⟩
    refine ⟨stripped, plain, (path.toList.splitOn '/').map String.ofList, ?_, ?_, ?_⟩
    · simp
    · rw [← String.toList_inj, toList_intercalate_slash, List.map_map]
      have same : String.toList ∘ String.ofList = id := by
        funext part
        exact String.toList_ofList
      rw [same, List.map_id, List.intercalate_splitOn]
    · intro segment member
      obtain ⟨part, inside, rfl⟩ := List.mem_map.mp member
      obtain ⟨nonempty, dot, dots⟩ := isSegment_iff.mp (legal part inside)
      refine ⟨?_, ?_, ?_, ?_⟩
      · rw [String.toList_ofList]
        exact JoinedText.not_mem_of_mem_splitOn inside
      · intro same
        exact nonempty (by simpa using congrArg String.toList same)
      · intro same
        exact dot (by simpa using congrArg String.toList same)
      · intro same
        exact dots (by simpa using congrArg String.toList same)

/-- A descriptor takes the canonical paths, and the path of no parts. -/
theorem acceptsPath_iff_canonical {path : String} :
    AcceptsPath path ↔ CanonicalPath path ∨ path = "." := by
  have trimmed_iff : isTrimmed path = true ↔ path ≠ "" ∧ strip path = path := by
    simp [isTrimmed, @eq_comm _ path (strip path)]
  rw [acceptsPath_iff, canonicalPath_iff, isResourcePath_iff, trimmed_iff]
  constructor
  · rintro ⟨⟨-, stripped⟩, plain, dot | legal⟩
    · exact .inr dot
    · exact .inl ⟨stripped, plain, legal⟩
  · rintro (⟨stripped, plain, legal⟩ | rfl)
    · refine ⟨⟨?_, stripped⟩, plain, .inr legal⟩
      rintro rfl
      exact (isSegment_iff.mp (legal [] (by simp))).1 rfl
    · exact ⟨⟨by decide, by decide⟩, by decide, .inl rfl⟩

theorem dot_not_canonical : ¬ CanonicalPath "." := by
  rw [canonicalPath_iff]
  rintro ⟨-, -, legal⟩
  have dot := legal ['.'] (by decide)
  cases dot

/-- The paths a descriptor takes are the canonical ones, except that it also takes `.`. -/
theorem skill_path_accepted_iff (path : String) :
    (AcceptsPath path ↔ CanonicalPath path) ↔ path ≠ "." := by
  rw [acceptsPath_iff_canonical]
  constructor
  · rintro same rfl
    exact dot_not_canonical (same.mp (.inr rfl))
  · intro other
    exact or_iff_left other

/-- The directory of the resources itself is taken as the path of one. -/
theorem skill_path_dot : ¬ ∀ path, AcceptsPath path ↔ CanonicalPath path := by
  intro same
  exact dot_not_canonical ((same ".").mp (acceptsPath_iff.mpr (by decide)))

end CongeriesCore
