import StructuredIL.Proofs.C.Control
import StructuredIL.Proofs.C.Grammar

/-!
# Reading a file back

A generated text is read as the program that it was generated for. `Stmt.tokens` are the tokens of
a statement and `Stmt.commands` the commands that it is read as: the lines of a sequence are not
held together by braces, so a sequence is read as the commands of its parts, and an arm of
a conditional or the inside of a loop as one compound.

`Stmt.IsReadable` says what a statement has to be for this: free of diagnostics, with declared names
only, and with jumps in loops. Then its text has its tokens (`Stmt.IsReadable.reads_text`), its
tokens are its commands (`Stmt.IsReadable.readsCommands`), and a whole file is read as a program
(`SourceFile.read?_text`).
-/

namespace StructuredIL.C

/-! ### Expressions -/

namespace Expr

/-- An expression without a diagnostic, with these names only. -/
def IsOver (names : List Text) : Expr → Prop
  | constant _ => True
  | variableName t => t ∈ names
  | sum l r => l.IsOver names ∧ r.IsOver names
  | relation _ l r => l.IsOver names ∧ r.IsOver names
  | diagnostic _ => False

variable {names : List Text} {e : Expr}

theorem IsOver.isReadable (hnames : ∀ t ∈ names, IsName t) (h : e.IsOver names) :
    e.IsReadable := by
  induction e with
  | constant value => trivial
  | variableName t => exact hnames t h
  | sum l r ihl ihr => exact ⟨ihl h.1, ihr h.2⟩
  | relation rel l r ihl ihr => exact ⟨ihl h.1, ihr h.2⟩
  | diagnostic t => exact h

theorem IsOver.regrouped (h : e.IsOver names) : e.regrouped.isOver names = true := by
  have hchain : e.chain.All fun u ↦ u.isOver names = true := by
    induction e with
    | constant value => exact ⟨rfl, nofun⟩
    | variableName t => exact ⟨List.contains_iff_mem.2 h, nofun⟩
    | sum l r ihl ihr => exact (ihl h.1).join (ihr h.2)
    | relation rel l r ihl ihr => exact (ihl h.1).join (ihr h.2)
    | diagnostic t => exact h.elim
  refine Chain.All.group (P := fun u : Term ↦ u.isOver names = true) (fun o l r hl hr ↦ ?_) hchain
  rw [Term.isOver, hl, hr]
  rfl

end Expr

/-! ### Statements -/

namespace Stmt

mutual
/-- The tokens of a statement. -/
def tokens : Stmt → List Token
  | assign t value => .word t :: .mark .assign :: (value.tokens ++ [.mark .semicolon])
  | nextRound => [.word "continue", .mark .semicolon]
  | exitLoop => [.word "break", .mark .semicolon]
  | exitFunction => [.word "return", .mark .semicolon]
  | print value =>
    .word "printf" :: .mark .openParen :: .quoted printFormat :: .mark .comma ::
      (value.tokens ++ [.mark .closeParen, .mark .semicolon])
  | ifThen c yes =>
    .word "if" :: .mark .openParen :: (c.tokens ++ .mark .closeParen ::
      .mark .openBrace :: (yes.tokens ++ [.mark .closeBrace]))
  | ifElse c yes no =>
    .word "if" :: .mark .openParen :: (c.tokens ++ .mark .closeParen ::
      .mark .openBrace :: (yes.tokens ++ .mark .closeBrace :: .word "else" ::
        .mark .openBrace :: (no.tokens ++ [.mark .closeBrace])))
  | scope parts => .mark .openBrace :: (tokensOfAll parts ++ [.mark .closeBrace])
  | loop parts =>
    .word "while" :: .mark .openParen :: (integerTokens 1 ++ .mark .closeParen ::
      .mark .openBrace :: (tokensOfAll parts ++ [.mark .closeBrace]))
  | sequence parts => if parts.isEmpty then [.mark .semicolon] else tokensOfAll parts
  | diagnostic _ => []

/-- The tokens of some statements. -/
def tokensOfAll : List Stmt → List Token
  | [] => []
  | s :: rest => s.tokens ++ tokensOfAll rest
end

mutual
/-- The commands that a statement is read as. -/
def commands : Stmt → List Command
  | assign t value => [.assign t value.regrouped]
  | nextRound => [.nextRound]
  | exitLoop => [.exitLoop]
  | exitFunction => [.exitFunction]
  | print value => [.print value.regrouped]
  | ifThen c yes => [.ifThen c.regrouped (.compound yes.commands)]
  | ifElse c yes no =>
    [.ifElse c.regrouped (.compound yes.commands) (.compound no.commands)]
  | scope parts => [.compound (commandsOfAll parts)]
  | loop parts => [.whileLoop (.literal 1) (.compound (commandsOfAll parts))]
  | sequence parts => if parts.isEmpty then [.empty] else commandsOfAll parts
  | diagnostic _ => []

/-- The commands that some statements are read as. -/
def commandsOfAll : List Stmt → List Command
  | [] => []
  | s :: rest => s.commands ++ commandsOfAll rest
end

/-- A statement without a diagnostic, with these names only, that jumps only where there is a
loop. -/
inductive IsReadable (names : List Text) : Bool → Stmt → Prop
  | assign {inLoop : Bool} {t : Text} {e : Expr} : t ∈ names → e.IsOver names →
      IsReadable names inLoop (.assign t e)
  | nextRound : IsReadable names true .nextRound
  | exitLoop : IsReadable names true .exitLoop
  | exitFunction {inLoop : Bool} : IsReadable names inLoop .exitFunction
  | print {inLoop : Bool} {e : Expr} : e.IsOver names → IsReadable names inLoop (.print e)
  | ifThen {inLoop : Bool} {c : Expr} {yes : Stmt} : c.IsOver names →
      IsReadable names inLoop yes → IsReadable names inLoop (.ifThen c yes)
  | ifElse {inLoop : Bool} {c : Expr} {yes no : Stmt} : c.IsOver names →
      IsReadable names inLoop yes → IsReadable names inLoop no →
      IsReadable names inLoop (.ifElse c yes no)
  | scope {inLoop : Bool} {parts : List Stmt} : (∀ p ∈ parts, IsReadable names inLoop p) →
      IsReadable names inLoop (.scope parts)
  | loop {inLoop : Bool} {parts : List Stmt} : (∀ p ∈ parts, IsReadable names true p) →
      IsReadable names inLoop (.loop parts)
  | sequence {inLoop : Bool} {parts : List Stmt} : (∀ p ∈ parts, IsReadable names inLoop p) →
      IsReadable names inLoop (.sequence parts)

variable {names : List Text} {inLoop : Bool} {s : Stmt} {parts : List Stmt}

/-! ### The commands of a statement -/

theorem readsCommands_ofAll (h : ∀ p ∈ parts, ReadsCommands p.tokens p.commands) :
    ReadsCommands (tokensOfAll parts) (commandsOfAll parts) := by
  induction parts with
  | nil => exact .nil
  | cons s rest ih =>
    obtain ⟨hs, hrest⟩ := List.forall_mem_cons.1 h
    exact hs.append (ih hrest)

theorem IsReadable.readsCommands (hfree : ∀ t ∈ names, IsFree t) (h : s.IsReadable names inLoop) :
    ReadsCommands s.tokens s.commands := by
  have hnames : ∀ t ∈ names, IsName t := fun t ht ↦ (hfree t ht).isName
  induction h with
  | assign ht he =>
    exact (readsCommand_assign (hfree _ ht).2 (he.isReadable hnames)).single
  | nextRound => exact readsCommand_nextRound.single
  | exitLoop => exact readsCommand_exitLoop.single
  | exitFunction => exact readsCommand_exitFunction.single
  | print he => exact (readsCommand_print (he.isReadable hnames)).single
  | ifThen hc _ ih =>
    exact (readsCommand_ifThen (hc.isReadable hnames) (readsCommand_compound ih)).single
  | ifElse hc _ _ ihyes ihno =>
    exact (readsCommand_ifElse (hc.isReadable hnames) ihyes (readsCommand_compound ihno)).single
  | scope _ ih => exact (readsCommand_compound (readsCommands_ofAll ih)).single
  | loop _ ih =>
    have hone : (Expr.constant 1).IsReadable := trivial
    exact (readsCommand_whileLoop hone (readsCommand_compound (readsCommands_ofAll ih))).single
  | @sequence _ parts _ ih =>
    rw [tokens, commands]
    split
    · exact readsCommand_empty.single
    · exact readsCommands_ofAll ih

theorem areOver_append {cs ds : List Command} (hc : Command.areOver names inLoop cs = true)
    (hd : Command.areOver names inLoop ds = true) :
    Command.areOver names inLoop (cs ++ ds) = true := by
  induction cs with
  | nil => exact hd
  | cons c rest ih =>
    rw [Command.areOver, Bool.and_eq_true] at hc
    rw [List.cons_append, Command.areOver, hc.1, ih hc.2]
    rfl

theorem areOver_ofAll (h : ∀ p ∈ parts, Command.areOver names inLoop p.commands = true) :
    Command.areOver names inLoop (commandsOfAll parts) = true := by
  induction parts with
  | nil => rfl
  | cons s rest ih =>
    obtain ⟨hs, hrest⟩ := List.forall_mem_cons.1 h
    exact areOver_append hs (ih hrest)

theorem IsReadable.areOver_commands (h : s.IsReadable names inLoop) :
    Command.areOver names inLoop s.commands = true := by
  induction h with
  | assign ht he =>
    simp [commands, Command.areOver, Command.isOver, ht, he.regrouped]
  | print he => simp [commands, Command.areOver, Command.isOver, he.regrouped]
  | ifThen hc _ ih => simp [commands, Command.areOver, Command.isOver, hc.regrouped, ih]
  | ifElse hc _ _ ihyes ihno =>
    simp [commands, Command.areOver, Command.isOver, hc.regrouped, ihyes, ihno]
  | scope _ ih => simp [commands, Command.areOver, Command.isOver, areOver_ofAll ih]
  | loop _ ih =>
    simp [commands, Command.areOver, Command.isOver, Term.isOver, areOver_ofAll ih]
  | @sequence _ parts _ ih =>
    rw [commands]
    split
    · rfl
    · exact areOver_ofAll ih
  | _ => rfl

/-! ### The text of a statement -/

theorem reads_following (h : ∀ p ∈ parts, Reads p.text p.tokens) {after : Text} {ts : List Token}
    (hafter : Reads after ts) : Reads (following parts after) (tokensOfAll parts ++ ts) := by
  induction parts with
  | nil => exact hafter
  | cons s rest ih =>
    obtain ⟨hs, hrest⟩ := List.forall_mem_cons.1 h
    have hline : Reads (Text.ofString "\n") [] := rfl
    have hreads := (hline.append hs).append (ih hrest)
    simpa [following, tokensOfAll] using hreads

theorem reads_onLines (h : ∀ p ∈ parts, Reads p.text p.tokens) {after : Text} {ts : List Token}
    (hafter : Reads after ts) :
    Reads (onLines (texts parts) ++ after) (tokensOfAll parts ++ ts) := by
  cases parts with
  | nil => exact hafter
  | cons s rest =>
    obtain ⟨hs, hrest⟩ := List.forall_mem_cons.1 h
    rw [onLines_texts_cons, tokensOfAll, List.append_assoc]
    exact hs.append (reads_following hrest hafter)

/-- A text with its tokens, if the texts of its expressions have theirs. -/
theorem IsReadable.reads_text (hnames : ∀ t ∈ names, IsName t) (h : s.IsReadable names inLoop) :
    Reads s.text s.tokens := by
  have hexpr {e : Expr} (he : e.IsOver names) : ReadsOpen e.text e.tokens :=
    Expr.readsOpen_text (he.isReadable hnames)
  have hclosing : Reads (Text.ofString " \x7d") [.mark .closeBrace] := rfl
  have hparen : Separates (Text.ofString ") \x7b ") := ⟨_, _, rfl, rfl, nofun⟩
  have hopening : Reads (Text.ofString ") \x7b ") [.mark .closeParen, .mark .openBrace] := rfl
  have hif : Reads (Text.ofString "if (") [.word "if", .mark .openParen] := rfl
  -- an expression may end in a word or a number, so what comes behind it has to separate
  induction h with
  | @assign _ t e ht he =>
    have hblank : Separates (Text.ofString " = ") := ⟨_, _, rfl, rfl, nofun⟩
    have hassign : Reads (Text.ofString " = ") [.mark .assign] := rfl
    have hsemicolon : Separates (Text.ofString ";") := ⟨_, _, rfl, rfl, nofun⟩
    have hend : Reads (Text.ofString ";") [.mark .semicolon] := rfl
    have hfront := (readsOpen_word (hnames t ht).1).append hblank hassign
    exact (hfront.append_open (hexpr he)).append hsemicolon hend
  | nextRound => rfl
  | exitLoop => rfl
  | exitFunction => rfl
  | print he =>
    have hfront : Reads (Text.ofString "printf(\"%d\\n\", ")
        [.word "printf", .mark .openParen, .quoted printFormat, .mark .comma] := rfl
    have hclose : Separates (Text.ofString ");") := ⟨_, _, rfl, rfl, nofun⟩
    have hend : Reads (Text.ofString ");") [.mark .closeParen, .mark .semicolon] := rfl
    exact (hfront.append_open (hexpr he)).append hclose hend
  | ifThen hc _ ih =>
    have hfront := (hif.append_open (hexpr hc)).append hparen hopening
    have hreads := (hfront.append ih).append hclosing
    simpa only [text, tokens, List.append_assoc, List.cons_append, List.nil_append] using hreads
  | ifElse hc _ _ ihyes ihno =>
    have helse : Reads (Text.ofString " \x7d else \x7b ")
        [.mark .closeBrace, .word "else", .mark .openBrace] := rfl
    have hfront := (hif.append_open (hexpr hc)).append hparen hopening
    have hreads := (((hfront.append ihyes).append helse).append ihno).append hclosing
    simpa only [text, tokens, List.append_assoc, List.cons_append, List.nil_append] using hreads
  | scope _ ih =>
    have hfront : Reads (Text.ofString "\x7b ") [.mark .openBrace] := rfl
    have hreads := hfront.append (reads_onLines ih hclosing)
    simpa only [text, tokens, List.append_assoc, List.cons_append, List.nil_append] using hreads
  | loop _ ih =>
    have hfront : Reads (Text.ofString "while (1) \x7b ") (.word "while" :: .mark .openParen ::
        (integerTokens 1 ++ [.mark .closeParen, .mark .openBrace])) := rfl
    have hreads := hfront.append (reads_onLines ih hclosing)
    simpa only [text, tokens, List.append_assoc, List.cons_append, List.nil_append] using hreads
  | @sequence _ parts _ ih =>
    rw [text, tokens]
    split
    · rfl
    · simpa using reads_onLines ih reads_nil

end Stmt

/-! ### Files -/

/-- The tokens of declarations. -/
def declarationTokens (locals : List (CType × Text)) : List Token :=
  locals.flatMap fun d ↦ [.word d.1.text, .word d.2, .mark .semicolon]

theorem declarationsOf_of_isStart {t : Token} {rest : List Token} (h : t.isStart = true) :
    declarationsOf (t :: rest) = ([], t :: rest) := by
  rw [declarationsOf.eq_def]
  split
  · rename_i u name rest' heq
    cases heq
    rw [Token.isStart, Bool.and_eq_true, Option.isNone_iff_eq_none] at h
    rw [h.2]
  · rfl

theorem ReadsCommands.declarationsOf_eq {ts : List Token} {cs : List Command}
    (h : ReadsCommands ts cs) : declarationsOf (ts ++ [.mark .closeBrace]) =
      ([], ts ++ [.mark .closeBrace]) := by
  cases h with
  | nil => rfl
  | cons hc _ =>
    -- a command does not begin like a declaration
    obtain ⟨t, rest, rfl, hstart⟩ := hc.start
    exact declarationsOf_of_isStart hstart

theorem declarationsOf_declarationTokens {rest : List Token}
    (h : declarationsOf rest = ([], rest)) (locals : List (CType × Text)) :
    declarationsOf (declarationTokens locals ++ rest) = (locals, rest) := by
  induction locals with
  | nil => exact h
  | cons d ds ih =>
    obtain ⟨type, t⟩ := d
    have htype : CType.ofWord? type.text = some type := by cases type <;> rfl
    show declarationsOf (.word type.text :: .word t :: .mark .semicolon ::
      (declarationTokens ds ++ rest)) = _
    rw [declarationsOf, htype, ih]

namespace SourceFile

/-- What the directives of every file say. -/
def includes : List Text := headers.map fun h ↦ Text.ofString s!"include <{h}>"

theorem reads_prologue : Reads prologue (includes.map Token.directive ++ [.word "void"]) := by
  have hint : Reads (Text.ofString "#include <stdint.h>\n") [.directive "include <stdint.h>"] := rfl
  have hbool : Reads (Text.ofString "#include <stdbool.h>\n")
      [.directive "include <stdbool.h>"] := rfl
  have hio : Reads (Text.ofString "#include <stdio.h>\n") [.directive "include <stdio.h>"] := rfl
  have hvoid : Reads (Text.ofString "\nvoid ") [.word "void"] := rfl
  exact ((hint.append hbool).append hio).append hvoid

theorem reads_declarations {locals : List (CType × Text)} (h : ∀ d ∈ locals, IsName d.2) :
    Reads ((locals.map fun d ↦ Declaration.declares d.1 d.2).flatMap fun d ↦
      Text.ofString "\n" ++ d.text) (declarationTokens locals) := by
  induction locals with
  | nil => rfl
  | cons d ds ih =>
    obtain ⟨hd, hds⟩ := List.forall_mem_cons.1 h
    have hline : Reads (Text.ofString "\n") [] := rfl
    have hblank : Reads (Text.ofString " ") [] := rfl
    have hsep : Separates (Text.ofString " ") := ⟨_, _, rfl, rfl, nofun⟩
    have hsemicolon : Separates (Text.ofString ";") := ⟨_, _, rfl, rfl, nofun⟩
    have hend : Reads (Text.ofString ";") [.mark .semicolon] := rfl
    have htype : ReadsOpen (Text.ofString d.1.text) [.word d.1.text] := by
      refine readsOpen_word ?_
      cases d.1 <;> rfl
    have hname : ReadsOpen d.2 [.word d.2] := readsOpen_word hd.1
    have hreads := (((hline.append_open htype).append hsep hblank).append_open hname).append
      hsemicolon hend
    simpa [declarationTokens, Declaration.text] using hreads.append (ih hds)

/-- The tokens of a file with these variables. -/
def tokens (file : SourceFile) (locals : List (CType × Text)) : List Token :=
  includes.map Token.directive ++ .word "void" :: .word file.name :: .mark .openParen ::
    .mark .closeParen :: .mark .openBrace ::
      (declarationTokens locals ++ (file.body.tokens ++ [.mark .closeBrace]))

/-- A file has its tokens, if its names are names. -/
theorem tokens?_text {file : SourceFile} {locals : List (CType × Text)} {inLoop : Bool}
    (hname : IsName file.name)
    (hdeclarations : file.declarations = locals.map fun d ↦ .declares d.1 d.2)
    (hlocals : ∀ d ∈ locals, IsName d.2)
    (hbody : file.body.IsReadable (locals.map Prod.snd) inLoop) :
    tokens? file.text = some (file.tokens locals) := by
  have hnames : ∀ t ∈ locals.map Prod.snd, IsName t := List.forall_mem_map.2 hlocals
  have hparens : Reads (Text.ofString "() \x7b")
      [.mark .openParen, .mark .closeParen, .mark .openBrace] := rfl
  have hsep : Separates (Text.ofString "() \x7b") := ⟨_, _, rfl, rfl, nofun⟩
  have hline : Reads (Text.ofString "\n") [] := rfl
  have hclosing : Reads (Text.ofString "\n\x7d") [.mark .closeBrace] := rfl
  have hopening := (reads_prologue.append_open (readsOpen_word hname.1)).append hsep hparens
  have hlines := hopening.append (reads_declarations hlocals)
  rw [text_eq, hdeclarations, (hlines.append
    ((hline.append (hbody.reads_text hnames)).append hclosing)).tokens?_eq]
  simp [tokens]

/-- **What a file is read as.** -/
theorem read?_text {file : SourceFile} {locals : List (CType × Text)} (hname : IsFree file.name)
    (hdeclarations : file.declarations = locals.map fun d ↦ .declares d.1 d.2)
    (hlocals : ∀ d ∈ locals, IsFree d.2) (hnodup : (locals.map Prod.snd).Nodup)
    (hbody : file.body.IsReadable (locals.map Prod.snd) false) :
    Program.read? file.text = some ⟨includes, file.name, locals, file.body.commands⟩ := by
  have hnames : ∀ t ∈ locals.map Prod.snd, IsFree t := List.forall_mem_map.2 hlocals
  have hcommands := hbody.readsCommands hnames
  have htokens := tokens?_text hname.isName hdeclarations (fun d hd ↦ (hlocals d hd).isName) hbody
  -- from the tokens, part by part
  have hlocalsOf := declarationsOf_declarationTokens hcommands.declarationsOf_eq locals
  have hread : commands? (file.body.tokens.length + 1)
      (file.body.tokens ++ [.mark .closeBrace]) = some (file.body.commands, []) :=
    hcommands.commands?_eq [] (Nat.lt_succ_self _)
  have hvalid : Program.isValid ⟨includes, file.name, locals, file.body.commands⟩ = true := by
    have hfree : (file.name :: locals.map Prod.snd).all (fun t ↦ !isReserved t) = true := by
      refine List.all_eq_true.2 (List.forall_mem_cons.2 ⟨?_, fun t ht ↦ ?_⟩)
      · rw [hname.2]
        rfl
      · rw [(hnames t ht).2]
        rfl
    have hheaders : headers.all (fun h ↦ includes.contains (Text.ofString s!"include <{h}>")) =
        true := rfl
    rw [Program.isValid, hheaders, hfree, decide_eq_true hnodup, hbody.areOver_commands]
    rfl
  have hdirectives (rest : List Token) :
      directivesOf (includes.map Token.directive ++ .word "void" :: rest) =
        (includes, .word "void" :: rest) := rfl
  rw [Program.read?, htokens, tokens]
  simp [hdirectives, name?, hlocalsOf, hread, hvalid]

end SourceFile

end StructuredIL.C
