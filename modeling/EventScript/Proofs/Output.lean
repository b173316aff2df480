import EventScript.Output
import EventScript.Proofs.Path
import EventScript.Source.Format

/-!
# Where scripts go

The default output is named after its source with all extensions taken off and the one of scripts
put on, so it is never read as a source again. An output that is asked for keeps its name, with an
extension if it had none, and stays what it is when it is asked for again.
-/

namespace EventScript

namespace SourceFormat

variable {path : Path} {format : SourceFormat}

theorem ofPath_of_extension_eq_nil (bare : path.extension = []) :
    ofPath path = .error (.refused (.unsupportedFormat [])) := by
  rw [ofPath, extensionOf, bare]
  rfl

theorem splitExtension?_ne_none (accepted : ofPath path = .ok format) :
    Path.splitExtension? path.name ≠ none := by
  intro bare
  have failed := ofPath_of_extension_eq_nil (Path.extension_eq_nil_iff.mpr bare)
  rw [accepted] at failed
  cases failed

theorem ofPath_of_script (extended : path.extension = Script.extension) :
    ofPath path = .error (.refused (.unsupportedFormat "sdf")) := by
  rw [ofPath, extensionOf, extended]
  rfl

end SourceFormat

namespace Output

variable {source path output : Path} {format : SourceFormat}
  {name stem extension base wish : Text}

theorem isExtension_script : Path.IsExtension Script.extension :=
  ⟨"sdf", rfl, by decide, by decide⟩

/-! ## Names without extensions -/

/-- Turn by turn a name with an extension gives way to its stem, read as a path, until a name has no
extension. -/
inductive Strips : Text → Text → Prop
  | bare {name : Text} (whole : Path.splitExtension? name = none) : Strips name name
  | strip {name stem extension base : Text}
    (divided : Path.splitExtension? name = some (stem, extension))
    (others : Strips (Path.ofText stem).name base) : Strips name base

theorem strips_bareName (name : Text) : Strips name (bareName name) := by
  fun_induction bareName name with
  | case1 name whole => exact .bare whole
  | case2 name stem extension divided ih => exact .strip divided ih

theorem strips_iff : Strips name base ↔ bareName name = base := by
  constructor
  · intro strips
    induction strips with
    | bare whole =>
      rw [bareName]
      split <;> simp_all
    | strip divided others ih =>
      rw [bareName]
      split <;> simp_all
  · rintro rfl
    exact strips_bareName name

theorem Strips.splitExtension?_eq_none (strips : Strips name base) :
    Path.splitExtension? base = none := by
  induction strips with
  | bare whole => exact whole
  | strip divided others ih => exact ih

/-- The stem of a name is a name, unless the name begins with two dots and the stem is the first of
them. -/
theorem name_ofText_stem (divided : Path.splitExtension? name = some (stem, extension))
    (single : CodePoint.ofChar '/' ∉ name) :
    (Path.ofText stem).name = stem ∨
      (Path.ofText stem).name = [] ∧ Text.ofString ".." <+: name := by
  obtain ⟨rfl, nonempty, letters, rfl, -⟩ := Path.splitExtension?_eq_some_iff.mp divided
  have stemSingle : CodePoint.ofChar '/' ∉ stem := mt (List.mem_append_left _) single
  rw [Path.name_ofText stemSingle]
  by_cases dot : stem = Text.ofString "."
  · right
    rw [dot]
    exact ⟨rfl, letters, rfl⟩
  · left
    have component : Path.isComponent stem = true := by simp [Path.isComponent, nonempty, dot]
    rw [if_pos component]

theorem slash_notMem_name_ofText (t : Text) : CodePoint.ofChar '/' ∉ (Path.ofText t).name :=
  (Path.isNormal_ofText t).slash_notMem_name

theorem Strips.isPrefix (strips : Strips name base) (single : CodePoint.ofChar '/' ∉ name) :
    base <+: name := by
  induction strips with
  | bare whole => exact List.prefix_refl _
  | @strip name stem extension base divided others ih =>
    have shorter := ih (slash_notMem_name_ofText stem)
    obtain ⟨rfl, -⟩ := Path.splitExtension?_eq_some_iff.mp divided
    rcases name_ofText_stem divided single with kept | ⟨emptied, -⟩
    · rw [kept] at shorter
      exact shorter.trans (List.prefix_append stem extension)
    · rw [emptied, List.prefix_nil] at shorter
      rw [shorter]
      exact List.nil_prefix

/-- A name that does not begin with two dots loses nothing but extensions. -/
theorem Strips.exists_extensions (strips : Strips name base)
    (single : CodePoint.ofChar '/' ∉ name) (nonempty : name ≠ [])
    (plain : ¬Text.ofString ".." <+: name) :
    base ≠ [] ∧ ∃ extensions : List Text,
      (∀ extension ∈ extensions, Path.IsExtension extension) ∧
        name = base ++ extensions.flatten := by
  induction strips with
  | bare whole => exact ⟨nonempty, [], List.forall_mem_nil _, (List.append_nil _).symm⟩
  | @strip name stem extension base divided others ih =>
    have kept := (name_ofText_stem divided single).resolve_right fun doubled => plain doubled.2
    obtain ⟨rfl, stemNonempty, last⟩ := Path.splitExtension?_eq_some_iff.mp divided
    rw [kept] at ih
    have stemPlain : ¬Text.ofString ".." <+: stem :=
      fun doubled => plain (doubled.trans (List.prefix_append stem extension))
    obtain ⟨filled, extensions, each, rfl⟩ :=
      ih (mt (List.mem_append_left _) single) stemNonempty stemPlain
    refine ⟨filled, extensions ++ [extension], ?_, by simp⟩
    rw [List.forall_mem_append, List.forall_mem_singleton]
    exact ⟨each, last⟩

theorem parent_defaultPath (source : Path) : (defaultPath source).parent = source.parent :=
  Path.parent_parent_child source _

theorem name_defaultPath (source : Path) :
    (defaultPath source).name = bareName source.name ++ Script.extension :=
  Path.name_child _ _

theorem exists_ofPath_defaultPath_eq (source : Path) :
    ∃ extension, SourceFormat.ofPath (defaultPath source) =
      .error (.refused (.unsupportedFormat extension)) := by
  by_cases blank : bareName source.name = []
  · have bare : (defaultPath source).extension = [] := by
      rw [Path.extension_eq_nil_iff, name_defaultPath, blank]
      rfl
    exact ⟨_, SourceFormat.ofPath_of_extension_eq_nil bare⟩
  · have extended := Path.extension_of_name (name_defaultPath source) blank isExtension_script
    exact ⟨_, SourceFormat.ofPath_of_script extended⟩

theorem defaultPath_ne (accepted : SourceFormat.ofPath source = .ok format) :
    defaultPath source ≠ source := by
  intro same
  obtain ⟨extension, failed⟩ := exists_ofPath_defaultPath_eq source
  rw [same, accepted] at failed
  cases failed

theorem extension_ofText_of_splitExtension? (single : CodePoint.ofChar '/' ∉ base)
    (whole : Path.splitExtension? base = none) : (Path.ofText base).extension = [] := by
  rw [Path.extension_eq_nil_iff, Path.name_ofText single]
  split
  · exact whole
  · rfl

/-! ## The default output -/

/-- The default output of a source is in the same directory and has another name, that of the source
up to where its extensions begin with the extension of scripts. It is not a source itself. Only
a source with two dots in front may lose more of its name than extensions. -/
theorem defaultPath_safe {t : Text} {format : SourceFormat}
    (accepted : SourceFormat.ofPath (Path.ofText t) = .ok format) :
    ∃ base, Strips (Path.ofText t).name base ∧
      (defaultPath (Path.ofText t)).parent = (Path.ofText t).parent ∧
      (defaultPath (Path.ofText t)).name = base ++ Script.extension ∧
      base <+: (Path.ofText t).name ∧ (Path.ofText base).extension = [] ∧
      defaultPath (Path.ofText t) ≠ Path.ofText t ∧
      (∃ extension, SourceFormat.ofPath (defaultPath (Path.ofText t)) =
        .error (.refused (.unsupportedFormat extension))) ∧
      (¬Text.ofString ".." <+: (Path.ofText t).name →
        base ≠ [] ∧ base.head? = (Path.ofText t).name.head? ∧
          ∃ extensions : List Text, extensions ≠ [] ∧
            (∀ extension ∈ extensions, Path.IsExtension extension) ∧
            (Path.ofText t).name = base ++ extensions.flatten) := by
  have strips := strips_bareName (Path.ofText t).name
  have single := slash_notMem_name_ofText t
  have front := strips.isPrefix single
  have whole := strips.splitExtension?_eq_none
  have extended := SourceFormat.splitExtension?_ne_none accepted
  refine ⟨bareName (Path.ofText t).name, strips, parent_defaultPath _, name_defaultPath _, front,
    ?_, defaultPath_ne accepted, exists_ofPath_defaultPath_eq _, ?_⟩
  · exact extension_ofText_of_splitExtension? (fun inside => single (front.subset inside)) whole
  · intro plain
    have named : (Path.ofText t).name ≠ [] := by
      intro nameless
      rw [nameless] at extended
      exact extended rfl
    obtain ⟨filled, extensions, each, cut⟩ := strips.exists_extensions single named plain
    refine ⟨filled, ?_, extensions, ?_, each, cut⟩
    · conv_rhs => rw [cut]
      rw [List.head?_append_of_ne_nil _ filled]
    · rintro rfl
      rw [List.flatten_nil, List.append_nil] at cut
      exact extended (cut ▸ whole)

/-- The directory and the dot in front stay, and both extensions go. -/
theorem defaultPath_safe_hiddenSource :
    let source := Path.ofText "levels/.intro.events.CSV"
    SourceFormat.ofPath source = .ok .csv ∧ (defaultPath source).parent = Path.ofText "levels" ∧
      (defaultPath source).name = ".intro.sdf" := by
  intro source
  have accepted : SourceFormat.ofPath source = .ok .csv := by rfl
  obtain ⟨base, strips, parent, name, -⟩ := defaultPath_safe accepted
  have first : Path.splitExtension? source.name =
      some (Text.ofString ".intro.events", Text.ofString ".CSV") := by rfl
  have second : Path.splitExtension? (Path.ofText ".intro.events").name =
      some (Text.ofString ".intro", Text.ofString ".events") := by rfl
  have third : Path.splitExtension? (Path.ofText ".intro").name = none := by rfl
  have ends : Strips source.name ".intro" := .strip first (.strip second (.bare third))
  have same := (strips_iff.mp ends).symm.trans (strips_iff.mp strips)
  rw [← same] at name
  exact ⟨accepted, parent, name⟩

/-! ## Outputs that are asked for -/

theorem path_of_ne_nil (source : Path) (asked : wish ≠ []) :
    Output.path source (some wish) =
      if (Path.ofText wish).extension = [] then addExtension (Path.ofText wish)
      else .ok (Path.ofText wish) := by
  obtain ⟨c, rest, rfl⟩ := List.exists_cons_of_ne_nil asked
  rfl

/-- A wish that is not empty and yet names nothing, such as a single dot, leads to no output. -/
theorem path_eq_error_iff {wish? : Option Text} {failure : Failure} :
    Output.path source wish? = .error failure ↔
      ∃ wish, wish? = some wish ∧ wish ≠ [] ∧ (Path.ofText wish).name = [] ∧
        failure = .brokeDown (.namelessPath (Path.ofText wish)) := by
  constructor
  · intro refused
    unfold Output.path at refused
    split at refused
    · cases refused
    · cases refused
    · next wish nonempty =>
      simp only at refused
      split at refused
      · unfold addExtension at refused
        split at refused
        · next nameless =>
          cases refused
          exact ⟨wish, rfl, nonempty, nameless, rfl⟩
        · cases refused
      · cases refused
  · rintro ⟨wish, rfl, nonempty, nameless, rfl⟩
    have bare : (Path.ofText wish).extension = [] := by
      rw [Path.extension, nameless]
      rfl
    rw [path_of_ne_nil source nonempty, if_pos bare, addExtension, if_pos nameless]

/-- A path with an extension is the output if its own text is asked for. -/
theorem path_toText (normal : output.IsNormal) (extended : output.extension ≠ [])
    (source : Path) : Output.path source (some output.toText) = .ok output := by
  have read := Path.ofText_toText normal
  have asked : output.toText ≠ [] := by
    intro silent
    rw [silent] at read
    rw [← read] at extended
    exact extended rfl
  rw [path_of_ne_nil source asked, read, if_neg extended]

theorem addExtension_eq_ok (extended : addExtension path = .ok output) :
    path.name ≠ [] ∧ output = path.parent.child (path.name ++ Script.extension) := by
  unfold addExtension at extended
  split at extended
  · cases extended
  · next named =>
    cases extended
    exact ⟨named, rfl⟩

theorem isNormal_addExtension (normal : path.IsNormal) :
    (path.parent.child (path.name ++ Script.extension)).IsNormal := by
  apply normal.parent_child
  · have long : path.name ++ Script.extension ≠ Text.ofString "." := by
      intro dot
      have length := congrArg List.length dot
      rw [List.length_append] at length
      change _ + 4 = 1 at length
      omega
    have filled : path.name ++ Script.extension ≠ [] :=
      List.append_ne_nil_of_right_ne_nil path.name (by decide)
    simp [Path.isComponent, long, filled]
  · rw [List.mem_append, not_or]
    exact ⟨normal.slash_notMem_name, by decide⟩

/-- The output is what was asked for or gets the extension of scripts behind its name. -/
theorem path_eq_ok_cases (asked : wish ≠ [])
    (resolved : Output.path source (some wish) = .ok output) :
    (Path.ofText wish).extension ≠ [] ∧ output = Path.ofText wish ∨
      (Path.ofText wish).extension = [] ∧ (Path.ofText wish).name ≠ [] ∧
        output = (Path.ofText wish).parent.child
          ((Path.ofText wish).name ++ Script.extension) := by
  rw [path_of_ne_nil source asked] at resolved
  split at resolved
  · next bare => exact .inr ⟨bare, addExtension_eq_ok resolved⟩
  · next extended =>
    cases resolved
    exact .inl ⟨extended, rfl⟩

theorem isNormal_of_path (asked : wish ≠ [])
    (resolved : Output.path source (some wish) = .ok output) : output.IsNormal := by
  obtain ⟨-, rfl⟩ | ⟨-, -, rfl⟩ := path_eq_ok_cases asked resolved
  · exact Path.isNormal_ofText wish
  · exact isNormal_addExtension (Path.isNormal_ofText wish)

theorem extension_ne_nil_of_path (asked : wish ≠ [])
    (resolved : Output.path source (some wish) = .ok output) : output.extension ≠ [] := by
  obtain ⟨extended, rfl⟩ | ⟨-, named, rfl⟩ := path_eq_ok_cases asked resolved
  · exact extended
  · rw [Path.extension_of_name (Path.name_child _ _) named isExtension_script]
    decide

/-- What is asked for is the output unless it names nothing. It stays in its directory, gets
an extension if it has none, and is kept from then on. -/
theorem path_of_wish (source : Path) {wish : Text} (asked : wish ≠ []) :
    ((∃ failure, Output.path source (some wish) = .error failure) ↔
        (Path.ofText wish).parts = []) ∧
      (∀ failure, Output.path source (some wish) = .error failure →
        failure = .brokeDown (.namelessPath (Path.ofText wish))) ∧
      ∀ output, Output.path source (some wish) = .ok output →
        output.parent = (Path.ofText wish).parent ∧ output.extension ≠ [] ∧
          ((Path.ofText wish).extension ≠ [] → output = Path.ofText wish) ∧
          ((Path.ofText wish).extension = [] →
            output.name = (Path.ofText wish).name ++ Script.extension) ∧
          ∀ other, Output.path other (some output.toText) = .ok output := by
  refine ⟨?_, ?_, ?_⟩
  · rw [← Path.name_eq_nil_iff (Path.isNormal_ofText wish)]
    constructor
    · rintro ⟨failure, refused⟩
      obtain ⟨other, same, -, nameless, -⟩ := path_eq_error_iff.mp refused
      cases same
      exact nameless
    · intro nameless
      exact ⟨_, path_eq_error_iff.mpr ⟨wish, rfl, asked, nameless, rfl⟩⟩
  · intro failure refused
    obtain ⟨other, same, -, -, cause⟩ := path_eq_error_iff.mp refused
    cases same
    exact cause
  · intro output resolved
    have filled := extension_ne_nil_of_path asked resolved
    have again := path_toText (isNormal_of_path asked resolved) filled
    obtain ⟨extended, rfl⟩ | ⟨bare, -, rfl⟩ := path_eq_ok_cases asked resolved
    · exact ⟨rfl, filled, fun _ => rfl, fun bare => absurd bare extended, again⟩
    · exact ⟨Path.parent_parent_child _ _, filled, fun extended => absurd bare extended,
        fun _ => Path.name_child _ _, again⟩

/-- A dot at the end of a name begins no extension, so that another dot follows it. -/
theorem path_of_wish_trailingDot :
    Text.ofString "//out/./a./" ≠ [] ∧
      Output.path (Path.ofText "x.csv") (some "//out/./a./") = .ok (Path.ofText "//out/a..sdf") ∧
      (Path.ofText "//out/a..sdf").parent = Path.ofText "//out" ∧
      ∀ other, Output.path other (some "//out/a..sdf") = .ok (Path.ofText "//out/a..sdf") := by
  have asked : Text.ofString "//out/./a./" ≠ [] := by decide
  have resolved : Output.path (Path.ofText "x.csv") (some "//out/./a./") =
      .ok (Path.ofText "//out/a..sdf") := by rfl
  obtain ⟨-, -, every⟩ := path_of_wish (Path.ofText "x.csv") asked
  obtain ⟨parent, -, -, -, again⟩ := every _ resolved
  exact ⟨asked, resolved, parent, again⟩

end Output

end EventScript
