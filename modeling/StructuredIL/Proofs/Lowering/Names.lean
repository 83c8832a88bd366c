import StructuredIL.Proofs.Loading.Legibility
import StructuredIL.Proofs.Lowering.Simulation

/-!
# The names in the generated text

The names of a function and of its variables are texts of a document, and no one looks at what they
are spelled like. They are written as they are, that of the function in small letters: after `void`,
in the declarations, and wherever a variable is used. So the text is C as far as the names allow it
(`names_of_generate`). Each of them is read as one word exactly if it is an identifier; a keyword is
read as a word as well, but not as a name. With names that are free the declarations and the body
are read as declarations and commands.

A name of another kind is accepted all the same and is written without a diagnostic
(`names_that_are_no_names`).
-/

namespace StructuredIL

open C

/-- The names that are written for a function: its own in small letters, and those of its
variables. -/
def Function.emittedNames (f : Function) : List Text :=
  Text.lower f.name :: f.locals.map Variable.name

namespace C

/-- The names of a file whose tokens are read are identifiers. -/
theorem SourceFile.isIdentifier_of_tokens? {file : SourceFile} {declared : List (CType × Text)}
    (h : tokens? file.text = some (file.tokens declared)) :
    isIdentifier file.name = true ∧ ∀ d ∈ declared, isIdentifier d.2 = true := by
  have hspelled := areSpelled_of_tokens? h
  refine ⟨hspelled _ (by simp [tokens]), fun d hd ↦ hspelled _ ?_⟩
  have hword : Token.word d.2 ∈ declarationTokens declared :=
    List.mem_flatMap.2 ⟨d, hd, by simp⟩
  simp [tokens, hword]

/-- **The names that are written.** A function that is loaded and lowered strictly is written with
its own name in small letters and with the names of its variables, and the body has no other names.
They are names of C exactly if the text is read with each of them as one word, and none is
a keyword. If the variables have names that are free, the declarations are read as those of the
variables, and the body as its commands. -/
theorem names_of_generate {f : Function} {text : Text} (hf : f.IsLoaded)
    (h : (generate .strict f).outcome = .ok text) :
    ∃ file, (lowerFunction .strict f).outcome = .ok file ∧ file.text = text ∧
      file.name = Text.lower f.name ∧
      file.declarations = ((declaredAs f.locals).map fun d ↦ .declares d.1 d.2) ∧
      file.body.IsReadable (f.locals.map Variable.name) true ∧
      ((∀ t ∈ f.emittedNames, IsName t) ↔
        tokens? text = some (file.tokens (declaredAs f.locals)) ∧
          ∀ t ∈ f.emittedNames, isKeyword t = false) ∧
      ((∀ v ∈ f.locals, IsFree v.name) →
        declarationsOf (declarationTokens (declaredAs f.locals) ++
            (file.body.tokens ++ [.mark .closeBrace])) =
          (declaredAs f.locals, file.body.tokens ++ [.mark .closeBrace]) ∧
        ReadsCommands file.body.tokens file.body.commands) := by
  obtain ⟨file, hlower, hfile⟩ := isClean_bind.1 (isClean_strict.2 h)
  obtain rfl : file.text = text := isClean_pure.1 hfile
  replace hfile : IsFile f file := isFile_of_lowerFunction hlower
  have hdeclarations := declarations_eq hfile.declarations
  have hbody := hfile.body.isReadable_of_resolved hf.resolved.body
  refine ⟨file, hlower.outcome, rfl, hfile.name, hdeclarations, hbody, ⟨fun hnames ↦ ?_, ?_⟩,
    fun hfree ↦ ?_⟩
  · obtain ⟨hname, hlocals⟩ := List.forall_mem_cons.1 hnames
    have hdeclared : ∀ d ∈ declaredAs f.locals, IsName d.2 :=
      List.forall_mem_map.2 (List.forall_mem_map.1 hlocals)
    rw [← map_snd_declaredAs] at hbody
    exact ⟨SourceFile.tokens?_text (hfile.name ▸ hname) hdeclarations hdeclared hbody,
      fun t ht ↦ (hnames t ht).2⟩
  · -- the other way round, the reader gives out identifiers only as words
    rintro ⟨htokens, hkeywords⟩
    obtain ⟨hname, hlocals⟩ := SourceFile.isIdentifier_of_tokens? htokens
    obtain ⟨hkeyword, hkeywords⟩ := List.forall_mem_cons.1 hkeywords
    refine List.forall_mem_cons.2 ⟨⟨hfile.name ▸ hname, hkeyword⟩, fun t ht ↦ ⟨?_, hkeywords t ht⟩⟩
    obtain ⟨v, hv, rfl⟩ := List.mem_map.1 ht
    exact List.forall_mem_map.1 hlocals v hv
  · have hcommands := hbody.readsCommands (List.forall_mem_map.2 hfree)
    exact ⟨declarationsOf_declarationTokens hcommands.declarationsOf_eq _, hcommands⟩

open CountingLoop in
/-- The names of the counting loop are free, so its text is read word by word, and as commands. -/
theorem names_of_counting_loop :
    tokens? file.text = some (file.tokens (declaredAs function.locals)) ∧
      ReadsCommands file.body.tokens file.body.commands := by
  obtain ⟨w', hbuilt⟩ := built
  have hgenerated : (generate .strict function).outcome = .ok file.text := rfl
  obtain ⟨g, hlower, -, -, -, -, hnames, hreads⟩ :=
    names_of_generate (.byItself hbuilt) hgenerated
  obtain rfl : file = g := Except.ok.inj hlower
  have hfree : ∀ v ∈ function.locals, IsFree v.name :=
    List.forall_mem_cons.2 ⟨⟨rfl, rfl⟩, List.forall_mem_cons.2 ⟨⟨rfl, rfl⟩,
      List.forall_mem_singleton.2 ⟨rfl, rfl⟩⟩⟩
  have hemitted : ∀ t ∈ function.emittedNames, IsName t :=
    List.forall_mem_cons.2 ⟨⟨rfl, rfl⟩, List.forall_mem_map.2 fun v hv ↦ (hfree v hv).isName⟩
  exact ⟨(hnames.1 hemitted).1, (hreads hfree).2⟩

namespace SpelledFreely

/-- A function with a name that is no identifier, and with variables named by a keyword and by two
words. -/
def document : List (Text × Value) :=
  let declared (name type : String) : Value :=
    .ofFields [("name", .string name), ("type", .string type)]
  let load (name : String) : Value := .ofOperation "ldloc" [("var", .string name)]
  [("name", .string "<Main>$"), ("variables", .list [declared "int" "I4", declared "a b" "Bool"]),
    ("body", .ofContainer "Normal" "body" [("only",
      [.ofOperation "stloc" [("var", .string "a b"), ("value", .ofOperation "comp"
        [("kind", .string "LessThan"), ("left", load "int"), ("right", load "int")])]])])]

/-- The variable that is named by a keyword. -/
def keyword : Variable := ⟨"int", .i4, some 0⟩

/-- The variable that is named by two words. -/
def twoWords : Variable := ⟨"a b", .bool, some 1⟩

/-- The function that is loaded. -/
def function : Function :=
  ⟨"<Main>$", [keyword, twoWords], .container ⟨0, .normal, .string "body"⟩
    [⟨⟨1, .controlFlow, .string "only"⟩,
      [.store twoWords (.compare .lessThan (.load keyword) (.load keyword))]⟩]⟩

/-- The file that it is lowered to. -/
def file : SourceFile :=
  ⟨"<main>$", [.declares .int32 "int", .declares .bool "a b"], .scope [.sequence
    [.assign "a b" (.relation .less (.variableName "int") (.variableName "int"))]]⟩

theorem isLoaded : function.IsLoaded := by
  obtain ⟨w, h⟩ : ∃ w, Build.buildFunction .standard (.object document) .empty =
      .ok function w :=
    Build.buildFunction_eq_ok 10 (by decide) rfl rfl rfl rfl rfl rfl
  exact .byItself h

end SpelledFreely

open SpelledFreely in
/-- **Names that are no names of C.** A function is written without a diagnostic though neither its
name nor that of one variable is an identifier, and that of the other is a keyword. The text is not
even read as tokens. -/
theorem names_that_are_no_names : function.IsLoaded ∧
    (generate .strict function).outcome = .ok file.text ∧
    file.name = "<main>$" ∧ isIdentifier file.name = false ∧
    file.declarations.map Declaration.text = ["int32_t int;", "bool a b;"] ∧
    isKeyword "int" = true ∧ isIdentifier "a b" = false ∧ tokens? file.text = none :=
  ⟨isLoaded, rfl, rfl, rfl, rfl, rfl, rfl, by decide +kernel⟩

end C

end StructuredIL
