import SchemaDecls.Pointer

/-!
Reading a JSON Pointer back into its segments. Whatever the segments hold, the path that is made of
them one by one reads as the same segments.
-/
namespace SchemaDecls.Pointer

/-- The segments of a pointer: none in the empty pointer, else those that its slashes introduce. -/
def segments? (path : String) : Option (List String) :=
  match path.toList with
  | [] => some []
  | '/' :: rest =>
    some ((Text.segments (· == '/') rest).map fun segment => String.ofList (unescapeChars segment))
  | _ => none

/-- The path that leads from `path` through `segments`. -/
def extend (path : String) (segments : List String) : String := segments.foldl push path

theorem extend_append (path : String) (first second : List String) :
    extend path (first ++ second) = extend (extend path first) second := by
  rw [extend, List.foldl_append]
  rfl

/-- What is left of an escaped character once `~1` is undone. -/
def halfEscape : Char → List Char
  | '~' => ['~', '0']
  | c => [c]

theorem replaceEscape_cons_of_ne {digit plain c : Char} (other : c ≠ '~') (rest : List Char) :
    replaceEscape digit plain (c :: rest) = c :: replaceEscape digit plain rest := by
  cases rest with
  | nil => simp [replaceEscape]
  | cons d rest => simp [replaceEscape, other]

theorem replaceEscape_cons_cons_of_ne {digit plain d : Char} (other : d ≠ digit)
    (rest : List Char) :
    replaceEscape digit plain ('~' :: d :: rest)
      = '~' :: replaceEscape digit plain (d :: rest) := by
  simp [replaceEscape, other]

theorem escapeChar_of_ne {c : Char} (noTilde : c ≠ '~') (noSlash : c ≠ '/') :
    escapeChar c = [c] := by
  unfold escapeChar
  split <;> simp_all

theorem halfEscape_of_ne {c : Char} (noTilde : c ≠ '~') : halfEscape c = [c] := by
  unfold halfEscape
  split <;> simp_all

theorem replaceEscape_slash (segment : List Char) :
    replaceEscape '1' '/' (segment.flatMap escapeChar) = segment.flatMap halfEscape := by
  induction segment with
  | nil => rfl
  | cons c rest ih =>
    by_cases tilde : c = '~'
    · subst tilde
      simp only [List.flatMap_cons, escapeChar, halfEscape, List.cons_append, List.nil_append]
      rw [replaceEscape_cons_cons_of_ne (by decide), replaceEscape_cons_of_ne (by decide), ih]
    · by_cases slash : c = '/'
      · subst slash
        simp [List.flatMap_cons, escapeChar, halfEscape, replaceEscape, ih]
      · rw [List.flatMap_cons, List.flatMap_cons, escapeChar_of_ne tilde slash,
          halfEscape_of_ne tilde, List.singleton_append, List.singleton_append,
          replaceEscape_cons_of_ne tilde, ih]

theorem replaceEscape_tilde (segment : List Char) :
    replaceEscape '0' '~' (segment.flatMap halfEscape) = segment := by
  induction segment with
  | nil => rfl
  | cons c rest ih =>
    by_cases tilde : c = '~'
    · subst tilde
      simp [List.flatMap_cons, halfEscape, replaceEscape, ih]
    · rw [List.flatMap_cons, halfEscape_of_ne tilde, List.singleton_append,
        replaceEscape_cons_of_ne tilde, ih]

theorem unescapeChars_escape (segment : String) :
    String.ofList (unescapeChars (escape segment).toList) = segment := by
  rw [escape, String.toList_ofList, unescapeChars, replaceEscape_slash, replaceEscape_tilde,
    String.ofList_toList]

theorem escape_unseparated (segment : String) :
    ∀ c ∈ (escape segment).toList, (c == '/') = false := by
  intro c member
  rw [escape, String.toList_ofList, List.mem_flatMap] at member
  obtain ⟨original, _, inside⟩ := member
  by_cases tilde : original = '~'
  · subst tilde
    rcases List.mem_cons.mp inside with rfl | later
    · decide
    · cases List.mem_singleton.mp later
      decide
  · by_cases slash : original = '/'
    · subst slash
      rcases List.mem_cons.mp inside with rfl | later
      · decide
      · cases List.mem_singleton.mp later
        decide
    · rw [escapeChar_of_ne tilde slash, List.mem_singleton] at inside
      subst inside
      simp [slash]

/-- A step of a path adds one part behind the parts that are there. -/
theorem parts_push (path segment : String) :
    Text.segments (· == '/') (push path segment).toList
      = Text.segments (· == '/') path.toList ++ [(escape segment).toList] := by
  have pushed : (push path segment).toList = path.toList ++ '/' :: (escape segment).toList := by
    simp [push]
  rw [pushed, Text.segments_append_separator _ _ _ _ rfl,
    Text.segments_of_unseparated _ _ (escape_unseparated segment)]

theorem parts_extend (path : String) (segments : List String) :
    Text.segments (· == '/') (extend path segments).toList
      = Text.segments (· == '/') path.toList ++ segments.map fun segment =>
          (escape segment).toList := by
  induction segments generalizing path with
  | nil => simp [extend]
  | cons segment rest ih =>
    have stepped : extend path (segment :: rest) = extend (push path segment) rest := rfl
    rw [stepped, ih, parts_push, List.append_assoc, List.map_cons, List.singleton_append]

/-- The segments of a pointer are its parts behind the empty first one, unescaped. -/
theorem segments?_eq_some_iff {path : String} {read : List String} : segments? path = some read ↔
    ∃ parts, Text.segments (· == '/') path.toList = [] :: parts ∧
      parts.map (fun part => String.ofList (unescapeChars part)) = read := by
  unfold segments?
  cases path.toList with
  | nil => simp [Text.segments]
  | cons c rest =>
    by_cases slash : c = '/'
    · subst slash
      simp [Text.segments]
    · cases found : Text.segments (· == '/') rest with
      | nil => exact absurd found (Text.segments_ne_nil _ rest)
      | cons first others => simp [Text.segments, slash, found]

/-- A path reads as the segments it was made of. -/
theorem segments?_extend {path : String} {read : List String} (known : segments? path = some read)
    (segments : List String) : segments? (extend path segments) = some (read ++ segments) := by
  obtain ⟨parts, cut, unescaped⟩ := segments?_eq_some_iff.mp known
  refine segments?_eq_some_iff.mpr
    ⟨parts ++ segments.map fun segment => (escape segment).toList, ?_, ?_⟩
  · rw [parts_extend, cut, List.cons_append]
  · simp only [List.map_append, List.map_map, Function.comp_def, unescapeChars_escape, List.map_id',
      unescaped]

theorem segments?_push {path : String} {read : List String} (known : segments? path = some read)
    (segment : String) : segments? (push path segment) = some (read ++ [segment]) :=
  segments?_extend known [segment]

theorem unescape_escape (segment : String) : unescape (escape segment) = segment :=
  unescapeChars_escape segment

/-- The parts of a path from the root are an empty one and, unescaped, the segments that it was made
of. So a path is made of one list of segments only. -/
theorem extend_reads_back (segments : List String) :
    let parts := Text.segments (· == '/') (extend "" segments).toList
    parts.head? = some [] ∧
    parts.tail.map (fun part => unescape (String.ofList part)) = segments ∧
    ∀ others, extend "" segments = extend "" others ↔ segments = others := by
  intro parts
  have cut : ∀ all : List String, Text.segments (· == '/') (extend "" all).toList
      = [] :: all.map fun segment => (escape segment).toList := fun all => parts_extend "" all
  have read : ∀ all : List String,
      (Text.segments (· == '/') (extend "" all).toList).tail.map
        (fun part => unescape (String.ofList part)) = all := by
    intro all
    simp only [cut, List.tail_cons, List.map_map, Function.comp_def, String.ofList_toList,
      unescape_escape, List.map_id']
  refine ⟨by simp [parts, cut], read segments, ?_⟩
  intro others
  constructor
  · intro same
    rw [← read segments, same, read others]
  · rintro rfl
    rfl

/-- An escape in a segment, an empty segment and an escaped slash stay apart. -/
example : extend "" ["a/b", "", "~1"] = "/a~1b//~01" := by decide

end SchemaDecls.Pointer
