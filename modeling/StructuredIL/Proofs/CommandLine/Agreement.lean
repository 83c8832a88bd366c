import Mathlib.Data.List.Forall2
import StructuredIL.Proofs.Configuration.Precedence

/-!
# The two readings of a command line

A command line is read twice. The program reads it with all its options, and refuses what it does
not know; the configuration reads the same words again and passes over what does not concern it. So
to the second reading an option of the first is a word like any other, and the value of such an
option is one more.

The options of the configuration are those of the program that concern it, under the same names, so
what a name means, and what it may be short for, to the configuration is what remains of what it
means to the program (`Grammar.form?_ofConfiguration`, `Grammar.candidates_ofConfiguration`). A word
is then the same to both, or an option to the program and nothing to the configuration
(`Word.Restricts`). No value is lost or won by that: the value of an option is an ordinary word to
the program, and such a word is ordinary to both.

Hence every command line that the program accepts is accepted by the configuration, and the options
that the one finds are those that the other finds and that concern it, in the same order and each
with what it is given (`Grammar.readKnown_of_readAll`).
-/

namespace StructuredIL

/-! ### What concerns the configuration -/

/-- Whether an option concerns the configuration. -/
def OptionKey.concernsConfiguration : OptionKey → Bool
  | config | method | strict | keepNops | logLevel => true
  | help | output | dumpTree => false

/-- Whether a word is an option that concerns the configuration. -/
def Word.concernsConfiguration : Word → Bool
  | known form _ _ => form.key.concernsConfiguration
  | _ => false

/-- What a command line says to the configuration. -/
def Options.forConfiguration (o : Options) : Options :=
  { o with output := .none, dumpTree := false, input := .none }

namespace Options

variable {o o' : Options} {form : OptionForm} {given : Given}

/-- An option that concerns the configuration says the same to it alone. -/
theorem take_forConfiguration (hform : form.key.concernsConfiguration = true)
    (h : o.take form given = .ok o') :
    o.forConfiguration.take form given = .ok o'.forConfiguration := by
  rw [take] at h ⊢
  split at h
  · rename_i hadmits
    rw [if_pos hadmits]
    cases hkey : form.key <;> rw [hkey] at h hform <;> cases h <;> first | rfl | cases hform
  · cases h

/-- Another option says nothing to it. -/
theorem forConfiguration_of_take (hform : form.key.concernsConfiguration = false)
    (h : o.take form given = .ok o') : o'.forConfiguration = o.forConfiguration := by
  rw [take] at h
  split at h
  · cases hkey : form.key <;> rw [hkey] at h hform <;> cases h <;> first | rfl | cases hform
  · cases h

end Options

namespace Grammar

/-! ### Names -/

theorem named_ofConfiguration :
    ofConfiguration.named = ofProgram.named.filter fun fn ↦ fn.1.key.concernsConfiguration := by
  decide

theorem mem_named_ofConfiguration {fn : OptionForm × String} (hfn : fn ∈ ofProgram.named)
    (h : fn.1.key.concernsConfiguration = true) : fn ∈ ofConfiguration.named := by
  rw [named_ofConfiguration]
  exact List.mem_filter.2 ⟨hfn, h⟩

theorem concernsConfiguration_of_mem {form : OptionForm} {name : String}
    (h : (form, name) ∈ ofConfiguration.named) : form.key.concernsConfiguration = true := by
  rw [named_ofConfiguration] at h
  exact (List.mem_filter.1 h).2

theorem eq_of_mem_named : ∀ a ∈ ofProgram.named, ∀ b ∈ ofProgram.named, a.2 = b.2 → a = b := by
  decide

theorem isShort_eq_false : ∀ fn ∈ ofConfiguration.named, isShort fn.2 = false := by
  decide +kernel

theorem mem_named_of_form? {g : Grammar} {name : List Char} {fn : OptionForm × String}
    (h : g.form? name = some fn) : fn ∈ g.named ∧ fn.2.toList = name := by
  have hname := List.find?_some h
  exact ⟨List.mem_of_find?_eq_some h, eq_of_beq hname⟩

/-- **What a name means to the configuration** is what it means to the program, if that concerns the
configuration. -/
theorem form?_ofConfiguration (name : List Char) :
    ofConfiguration.form? name =
      (ofProgram.form? name).filter fun fn ↦ fn.1.key.concernsConfiguration := by
  cases hown : ofConfiguration.form? name with
  | none =>
    cases hall : ofProgram.form? name with
    | none => rfl
    | some fn =>
      obtain ⟨hmem, hname⟩ := mem_named_of_form? hall
      have hforeign : fn.1.key.concernsConfiguration = false := by
        by_contra h
        have hmem' := mem_named_ofConfiguration hmem (by simpa using h)
        exact List.find?_eq_none.1 hown fn hmem' (beq_iff_eq.2 hname)
      rw [Option.filter_some, hforeign]
      rfl
  | some fn =>
    obtain ⟨hmem', hname⟩ := mem_named_of_form? hown
    rw [named_ofConfiguration] at hmem'
    obtain ⟨hmem, hconcerns⟩ := List.mem_filter.1 hmem'
    cases hall : ofProgram.form? name with
    | none => exact absurd (beq_iff_eq.2 hname) (List.find?_eq_none.1 hall fn hmem)
    | some fn' =>
      obtain ⟨hfn', hname'⟩ := mem_named_of_form? hall
      -- No two options have a name in common.
      obtain rfl : fn' = fn :=
        eq_of_mem_named _ hfn' _ hmem (String.toList_injective (hname'.trans hname.symm))
      rw [Option.filter_some, hconcerns]
      rfl

/-- **What a word may be short for to the configuration** is what it may be short for to the
program, and concerns the configuration. -/
theorem candidates_ofConfiguration (cs : List Char) :
    ofConfiguration.candidates cs =
      (ofProgram.candidates cs).filter Word.concernsConfiguration := by
  rw [candidates.eq_def, candidates.eq_def, named_ofConfiguration]
  dsimp only
  split
  · rw [List.filter_map, List.filter_filter, List.filter_filter]
    congr 1
    exact List.filter_congr fun fn _ ↦ Bool.and_comm ..
  · rw [List.filterMap_filter, List.filter_filterMap]
    congr 1
    funext fn
    by_cases hlong : fn.2.toList == cs.take 2 <;> by_cases hshort : cs.isPrefixOf fn.2.toList <;>
      cases hconcerns : fn.1.key.concernsConfiguration <;>
      simp [hlong, hshort, hconcerns, Word.concernsConfiguration, Option.filter_some]

theorem of_mem_candidates {g : Grammar} {cs : List Char} {w : Word} (h : w ∈ g.candidates cs) :
    ∃ form name attached, (form, name) ∈ g.named ∧ w = .known form name attached := by
  rw [candidates.eq_def] at h
  dsimp only at h
  split at h
  · obtain ⟨fn, hfn, rfl⟩ := List.mem_map.1 h
    exact ⟨_, _, _, List.mem_of_mem_filter hfn, rfl⟩
  · obtain ⟨fn, hfn, hw⟩ := List.mem_filterMap.1 h
    split at hw
    · cases hw
      exact ⟨_, _, _, hfn, rfl⟩
    · split at hw
      · cases hw
        exact ⟨_, _, _, hfn, rfl⟩
      · cases hw

/-- The whole name of an option that does not concern the configuration is no option to it. -/
theorem classifyWord_of_foreign : ∀ fn ∈ ofProgram.named,
    fn.1.key.concernsConfiguration = false →
      ofConfiguration.classifyWord fn.2 = .ok (.unknown fn.2) := by
  decide +kernel

/-- Nor is it short for one, with a value behind it. -/
theorem candidates_of_foreign (after : List Char) {fn : OptionForm × String}
    (hfn : fn ∈ ofProgram.named) (hforeign : fn.1.key.concernsConfiguration = false) :
    ofConfiguration.candidates (fn.2.toList ++ '=' :: after) = [] := by
  have hname : fn.2 ∈ ["-h", "--help", "-o", "--output", "--dump-il"] := by
    revert fn
    decide
  simp only [List.mem_cons, List.not_mem_nil, or_false] at hname
  obtain h | h | h | h | h := hname <;> rw [h] <;> rfl

end Grammar

/-! ### Words of the two readings -/

/-- What a word is to the program, and what the same word is to the configuration. -/
inductive Word.Restricts : Word → Word → Prop
  /-- The separator is the same to both. -/
  | separator : Restricts .separator .separator
  /-- So is an ordinary word. -/
  | plain (text : String) : Restricts (.plain text) (.plain text)
  /-- So is a word that looks like an option and is none. -/
  | unknown (text : String) : Restricts (.unknown text) (.unknown text)
  /-- So is an option that concerns the configuration. -/
  | own {form : OptionForm} {name : String} (attached : Option (List Char))
      (h : (form, name) ∈ Grammar.ofConfiguration.named) :
      Restricts (.known form name attached) (.known form name attached)
  /-- Every other option is none to the configuration. -/
  | foreign {form : OptionForm} (name : String) (attached : Option (List Char)) {w : Word}
      (text : String) (h : form.key.concernsConfiguration = false)
      (hw : w = .plain text ∨ w = .unknown text) : Restricts (.known form name attached) w

namespace Grammar

variable {text : String} {w : Word}

/-- What a word that is short for nothing is. -/
theorem classifyShortened_of_candidates_nil {g : Grammar} (h : g.candidates text.toList = []) :
    g.classifyShortened text = .ok (.plain text) ∨
      g.classifyShortened text = .ok (.unknown text) := by
  rw [classifyShortened, h]
  dsimp only
  split
  · exact .inl rfl
  · exact .inr rfl

theorem restricts_of_candidates_nil {form : OptionForm} (name : String)
    (attached : Option (List Char)) (hforeign : form.key.concernsConfiguration = false)
    (h : ofConfiguration.candidates text.toList = []) :
    ∃ w', ofConfiguration.classifyShortened text = .ok w' ∧
      (Word.known form name attached).Restricts w' := by
  obtain hw | hw := classifyShortened_of_candidates_nil h
  · exact ⟨_, hw, .foreign name attached text hforeign (.inl rfl)⟩
  · exact ⟨_, hw, .foreign name attached text hforeign (.inr rfl)⟩

theorem restricts_of_classifyShortened (h : ofProgram.classifyShortened text = .ok w) :
    ∃ w', ofConfiguration.classifyShortened text = .ok w' ∧ w.Restricts w' := by
  have hown := candidates_ofConfiguration text.toList
  rw [classifyShortened] at h
  cases hall : ofProgram.candidates text.toList with
  | nil =>
    rw [hall] at h hown
    rw [classifyShortened, hown, List.filter_nil]
    dsimp only at h ⊢
    refine ⟨w, h, ?_⟩
    split at h <;> cases h
    · exact .plain text
    · exact .unknown text
  | cons word more =>
    rw [hall] at h hown
    cases more with
    | cons => cases h
    | nil =>
      cases h
      have hmem : w ∈ ofProgram.candidates text.toList := by
        rw [hall]
        exact List.mem_singleton_self w
      obtain ⟨form, name, attached, -, rfl⟩ := of_mem_candidates hmem
      rw [List.filter_singleton, Word.concernsConfiguration] at hown
      cases hconcerns : form.key.concernsConfiguration with
      | true =>
        rw [hconcerns] at hown
        have hmem' : Word.known form name attached ∈ ofConfiguration.candidates text.toList := by
          rw [hown]
          exact List.mem_singleton_self _
        obtain ⟨_, _, _, hnamed, heq⟩ := of_mem_candidates hmem'
        cases heq
        refine ⟨_, ?_, .own attached hnamed⟩
        rw [classifyShortened, hown]
        rfl
      | false =>
        rw [hconcerns] at hown
        exact restricts_of_candidates_nil name attached hconcerns hown

theorem eq_of_dropWhile_ne {cs after : List Char} {c : Char}
    (h : (cs.dropWhile fun d ↦ d != '=') = c :: after) : c = '=' := by
  have := List.dropWhile_get_zero_not (fun d ↦ d != '=') cs (by simp [h])
  simpa [h] using this

/-- An option by its name. -/
theorem restricts_of_form? {fn : OptionForm × String}
    (hhead : ¬(text.toList.head? != some '-') = true)
    (hname : ofProgram.form? text.toList = some fn) :
    ∃ w', ofConfiguration.classifyWord text = .ok w' ∧
      (Word.known fn.1 fn.2 none).Restricts w' := by
  have hown := form?_ofConfiguration text.toList
  rw [hname, Option.filter_some] at hown
  obtain ⟨hmem, htext⟩ := mem_named_of_form? hname
  cases hconcerns : fn.1.key.concernsConfiguration with
  | true =>
    rw [hconcerns, if_pos rfl] at hown
    refine ⟨.known fn.1 fn.2 none, ?_, .own none (mem_named_ofConfiguration hmem hconcerns)⟩
    rw [classifyWord, if_neg hhead, hown]
  | false =>
    have hword := classifyWord_of_foreign fn hmem hconcerns
    rw [String.toList_injective htext] at hword
    exact ⟨_, hword, .foreign fn.2 none text hconcerns (.inr rfl)⟩

/-- **A word that the program understands** is the same to the configuration, or an option that
does not concern it. -/
theorem restricts_of_classifyWord (h : ofProgram.classifyWord text = .ok w) :
    ∃ w', ofConfiguration.classifyWord text = .ok w' ∧ w.Restricts w' := by
  rw [classifyWord] at h
  dsimp only at h
  split at h
  · rename_i hhead
    cases h
    refine ⟨_, ?_, .plain text⟩
    rw [classifyWord, if_pos hhead]
  · rename_i hhead
    have hown := form?_ofConfiguration text.toList
    cases hall : ofProgram.form? text.toList with
    | some fn =>
      rw [hall] at h
      cases h
      exact restricts_of_form? hhead hall
    | none =>
      rw [hall, Option.filter_none] at hown
      rw [hall] at h
      dsimp only at h
      rw [classifyWord, if_neg hhead, hown]
      dsimp only
      split at h
      · rename_i hdash
        cases h
        exact ⟨_, if_pos hdash, .plain text⟩
      · rename_i hdash
        rw [if_neg hdash]
        cases hafter : text.toList.dropWhile fun c ↦ c != '=' with
        | nil =>
          rw [hafter] at h
          exact restricts_of_classifyShortened h
        | cons c after =>
          obtain rfl := eq_of_dropWhile_ne hafter
          rw [hafter] at h
          dsimp only at h ⊢
          rw [form?_ofConfiguration]
          cases hname : ofProgram.form? (text.toList.takeWhile fun c ↦ c != '=') with
          | none =>
            rw [hname] at h
            exact restricts_of_classifyShortened h
          | some fn =>
            rw [hname] at h
            cases h
            obtain ⟨hmem, hfn⟩ := mem_named_of_form? hname
            rw [Option.filter_some]
            cases hconcerns : fn.1.key.concernsConfiguration with
            | true => exact ⟨_, rfl, .own (some after) (mem_named_ofConfiguration hmem hconcerns)⟩
            | false =>
              have htext : text.toList = fn.2.toList ++ '=' :: after := by
                rw [hfn, ← hafter, List.takeWhile_append_dropWhile]
              refine restricts_of_candidates_nil fn.2 (some after) hconcerns ?_
              rw [htext]
              exact candidates_of_foreign after hmem hconcerns

/-- The words behind the separator are ordinary to both. -/
theorem restricts_plain (texts : List String) :
    List.Forall₂ Word.Restricts (texts.map .plain) (texts.map .plain) := by
  rw [List.forall₂_map_left_iff, List.forall₂_map_right_iff]
  exact List.forall₂_same.2 fun text _ ↦ .plain text

theorem restricts_of_classify {args : List String} {words : List Word}
    (h : ofProgram.classify args = .ok words) :
    ∃ words', ofConfiguration.classify args = .ok words' ∧
      List.Forall₂ Word.Restricts words words' := by
  induction args generalizing words with
  | nil =>
    cases h
    exact ⟨[], rfl, .nil⟩
  | cons text rest ih =>
    rw [classify] at h ⊢
    split at h
    · rename_i hseparator
      cases h
      exact ⟨_, if_pos hseparator, .cons .separator (restricts_plain rest)⟩
    · rename_i hseparator
      rw [if_neg hseparator]
      obtain ⟨word, hword, h⟩ := bind_eq_ok.1 h
      obtain ⟨words, hwords, h⟩ := bind_eq_ok.1 h
      cases h
      obtain ⟨word', hword', hr⟩ := restricts_of_classifyWord hword
      obtain ⟨words', hwords', hrs⟩ := ih hwords
      refine ⟨word' :: words', ?_, .cons hr hrs⟩
      rw [hword', hwords']
      rfl

/-! ### Reading words -/

section

variable {g : Grammar} (hinput : g.takesInput = false)
include hinput

/-- A grammar that expects no input passes over an ordinary word. -/
theorem readWords_plain (r : Reading) (text : String) (rest : List Word) :
    g.readWords r (.plain text :: rest) =
      g.readWords { r with extras := r.extras ++ [text] } rest := by
  rw [readWords.eq_def]
  simp [hinput]

/-- So it does over the separator, whatever stands behind it. -/
theorem readWords_separator (r : Reading) (rest : List Word) :
    g.readWords r (.separator :: rest) =
      g.readWords { r with extras := r.extras ++ ["--"] } rest := by
  cases rest with
  | nil => rfl
  | cons w rest =>
    cases w with
    | plain text =>
      rw [readWords_plain hinput, readWords.eq_def]
      simp [hinput]
    | _ => rfl

end

/-- An option without a value. -/
theorem readWords_flag (g : Grammar) (r : Reading) {form : OptionForm} (name : String)
    (rest : List Word) (hflag : form.takesValue = false) :
    g.readWords r (.known form name none :: rest) = (do
      let options ← r.options.take form .nothing
      g.readWords { r with options } rest) := by
  rw [readWords.eq_def]
  simp [hflag]

/-- An option and its value in one word. -/
theorem readWords_attached (g : Grammar) (r : Reading) {form : OptionForm} (name : String)
    (attached : List Char) (rest : List Word) (hvalue : form.takesValue = true) :
    g.readWords r (.known form name (some attached) :: rest) = (do
      let options ← r.options.take form (.ofWord (String.ofList attached))
      g.readWords { r with options } rest) := by
  rw [readWords.eq_def]
  dsimp only
  rw [if_pos hvalue]

end Grammar

theorem Word.options_of_flag {form : OptionForm} (name : String) {rest : List Word}
    (h : form.takesValue = false) :
    options (.known form name none :: rest) = (form.key, .nothing) :: options rest := by
  rw [options.eq_def]
  simp [h]

/-- The options among some words that concern the configuration. -/
def Word.ownOptions (words : List Word) : List (OptionKey × Given) :=
  (options words).filter fun occurrence ↦ occurrence.1.concernsConfiguration

namespace Grammar

/-- What takes the program from `o` to `o₁`, as `words`, the configuration reads, as `words'`, and
finds the options that concern it. -/
def Follows (words words' : List Word) (o o₁ : Options) : Prop :=
  (∀ extras, ∃ extras₁, ofConfiguration.readWords ⟨o.forConfiguration, extras⟩ words' =
    .ok ⟨o₁.forConfiguration, extras₁⟩) ∧
  Word.options words' = Word.ownOptions words

namespace Follows

variable {words words' all all' : List Word} {o o₁ o₂ : Options}

theorem nil (o : Options) : Follows [] [] o o := ⟨fun extras ↦ ⟨extras, rfl⟩, rfl⟩

/-- What the program reads may say more, if that does not concern the configuration. -/
theorem skip (h : Follows words words' o₂ o₁) (hall : Word.ownOptions all = Word.ownOptions words)
    (ho : o₂.forConfiguration = o.forConfiguration) : Follows all words' o o₁ := by
  obtain ⟨hreads, hoptions⟩ := h
  rw [ho] at hreads
  exact ⟨hreads, hoptions.trans hall.symm⟩

/-- What the configuration reads may have an ordinary word more. -/
theorem plain (h : Follows all words' o o₁) (text : String) :
    Follows all (.plain text :: words') o o₁ := by
  refine ⟨fun extras ↦ ?_, h.2⟩
  rw [readWords_plain rfl]
  exact h.1 _

theorem unknown (h : Follows all words' o o₁) (text : String) :
    Follows all (.unknown text :: words') o o₁ :=
  ⟨fun extras ↦ h.1 (extras ++ [text]), h.2⟩

theorem separator (h : Follows all words' o o₁) : Follows all (.separator :: words') o o₁ := by
  refine ⟨fun extras ↦ ?_, h.2⟩
  rw [readWords_separator rfl]
  exact h.1 _

theorem ordinary {w : Word} {text : String} (h : Follows all words' o o₁)
    (hw : w = .plain text ∨ w = .unknown text) : Follows all (w :: words') o o₁ := by
  obtain rfl | rfl := hw
  · exact h.plain text
  · exact h.unknown text

variable {form : OptionForm} {given : Given}

/-- An option that does not concern the configuration, with its value if it takes one. -/
theorem foreign (h : Follows words words' o₂ o₁) (hform : form.key.concernsConfiguration = false)
    (htake : o.take form given = .ok o₂)
    (hall : Word.options all = (form.key, given) :: Word.options words) :
    Follows all words' o o₁ := by
  refine h.skip ?_ (Options.forConfiguration_of_take hform htake)
  rw [Word.ownOptions, hall, List.filter_cons_of_neg (by simp [hform])]
  rfl

/-- An option that concerns the configuration, with its value if it takes one. -/
theorem own (h : Follows words words' o₂ o₁) (hform : form.key.concernsConfiguration = true)
    (htake : o.take form given = .ok o₂)
    (hall : Word.options all = (form.key, given) :: Word.options words)
    (hall' : Word.options all' = (form.key, given) :: Word.options words')
    (hread : ∀ r : Reading, ofConfiguration.readWords r all' = do
      let options ← r.options.take form given
      ofConfiguration.readWords { r with options } words') : Follows all all' o o₁ := by
  refine ⟨fun extras ↦ ?_, ?_⟩
  · rw [hread, Options.take_forConfiguration hform htake]
    exact h.1 extras
  · rw [Word.ownOptions, hall, List.filter_cons_of_pos (by simp [hform]), hall', h.2]
    rfl

/-- An option that is one word, with whatever it is given. -/
theorem known {name : String} {attached : Option (List Char)} {w : Word}
    (h : Follows words words' o₂ o₁) (hw : (Word.known form name attached).Restricts w)
    (htake : o.take form given = .ok o₂)
    (hoptions : ∀ rest, Word.options (.known form name attached :: rest) =
      (form.key, given) :: Word.options rest)
    (hread : ∀ r : Reading, ofConfiguration.readWords r (.known form name attached :: words') = do
      let options ← r.options.take form given
      ofConfiguration.readWords { r with options } words') :
    Follows (.known form name attached :: words) (w :: words') o o₁ := by
  cases hw with
  | own _ hnamed =>
    exact h.own (concernsConfiguration_of_mem hnamed) htake (hoptions words) (hoptions words') hread
  | foreign _ _ _ hforeign hw => exact (h.ordinary hw).foreign hforeign htake (hoptions words)

end Follows

theorem follows_of_readWords {g : Grammar} {r r₁ : Reading} {words words' : List Word}
    (h : g.readWords r words = .ok r₁) (hwords : List.Forall₂ Word.Restricts words words') :
    Follows words words' r.options r₁.options := by
  fun_induction readWords g r words generalizing words'
  case case1 =>
    cases h
    cases hwords
    exact .nil _
  case case2 ih =>
    obtain _ | ⟨⟨⟩, hrest⟩ := hwords
    exact ((ih h hrest).unknown _).skip rfl rfl
  case case3 ih =>
    obtain _ | ⟨⟨⟩, _ | ⟨⟨⟩, hrest⟩⟩ := hwords
    exact ((ih h hrest).separator.plain _).skip rfl rfl
  case case4 ih =>
    obtain _ | ⟨⟨⟩, hrest⟩ := hwords
    exact ((ih h hrest).plain _).skip rfl rfl
  case case5 ih =>
    obtain _ | ⟨⟨⟩, hrest⟩ := hwords
    exact ((ih h hrest).plain _).skip rfl rfl
  case case6 ih | case7 ih =>
    obtain _ | ⟨⟨⟩, _ | ⟨⟨⟩, hrest⟩⟩ := hwords
    exact ((ih h hrest).plain _).separator.skip rfl rfl
  case case8 ih =>
    obtain _ | ⟨⟨⟩, hrest⟩ := hwords
    exact (ih h hrest).separator.skip rfl rfl
  case case9 hvalue _ _ ih =>
    obtain _ | ⟨hw, _ | ⟨⟨⟩, hrest⟩⟩ := hwords
    obtain ⟨o₂, htake, hread⟩ := bind_eq_ok.1 h
    have hfollows := ih o₂ hread hrest
    cases hw with
    | own _ hnamed =>
      refine hfollows.own (concernsConfiguration_of_mem hnamed) htake ?_ ?_ fun r ↦ ?_
      · rw [Word.options, if_pos hvalue]
      · rw [Word.options, if_pos hvalue]
      · rw [readWords.eq_def]
        dsimp only
        rw [if_pos hvalue]
    | foreign _ _ _ hforeign hw =>
      -- The value is an ordinary word to the configuration.
      refine ((hfollows.plain _).ordinary hw).foreign hforeign htake ?_
      rw [Word.options, if_pos hvalue]
  case case11 hvalue ih =>
    obtain _ | ⟨hw, hrest⟩ := hwords
    obtain ⟨o₂, htake, hread⟩ := bind_eq_ok.1 h
    have hflag := eq_false_of_ne_true hvalue
    exact (ih o₂ hread hrest).known hw htake (fun _ ↦ Word.options_of_flag _ hflag)
      fun r ↦ readWords_flag _ r _ _ hflag
  case case12 hvalue ih =>
    obtain _ | ⟨hw, hrest⟩ := hwords
    obtain ⟨o₂, htake, hread⟩ := bind_eq_ok.1 h
    exact (ih o₂ hread hrest).known hw htake (fun _ ↦ by rw [Word.options, if_pos hvalue])
      fun r ↦ readWords_attached _ r _ _ _ hvalue
  case case13 hvalue hshort ih =>
    obtain _ | ⟨hw, hrest⟩ := hwords
    obtain ⟨o₂, htake, hread⟩ := bind_eq_ok.1 h
    cases hw with
    | own _ hnamed =>
      -- No option of the configuration has one letter, so none begins a bundle.
      rw [isShort_eq_false _ hnamed] at hshort
      cases hshort
    | foreign _ _ _ hforeign hw =>
      refine ((ih o₂ hread hrest).ordinary hw).foreign hforeign htake ?_
      rw [Word.options, if_neg hvalue]
  case case10 | case14 => cases h

theorem given_of_readKnown {g : Grammar} {args : List String} {r : Reading} {words : List Word}
    (h : g.readKnown args = .ok r) (hwords : g.classify args = .ok words) :
    g.given args = Word.options words := by
  rw [given, h, hwords]

/-- **The two readings of a command line agree.** One that the program accepts is not refused by the
configuration, which reads the same in it as far as it is concerned: every option of its own as
often, in the same order and with the same value as the program does, and nothing else. -/
theorem readKnown_of_readAll {args : List String} {o : Options}
    (h : ofProgram.readAll args = .ok o) :
    (∃ extras, ofConfiguration.readKnown args = .ok ⟨o.forConfiguration, extras⟩) ∧
      (ofConfiguration.given args =
        (ofProgram.given args).filter fun occurrence ↦ occurrence.1.concernsConfiguration) ∧
      ∀ (c : Configuration) (d : Directory), (c.prepare d (some args)).2.outcome = .ok () := by
  obtain ⟨r, hprogram, h⟩ := bind_eq_ok.1 h
  obtain ⟨words, hwords, hread⟩ := bind_eq_ok.1 hprogram
  obtain rfl : r.options = o := by
    split at h
    · exact Except.ok.inj h
    · cases h
  obtain ⟨words', hwords', hrestricts⟩ := restricts_of_classify hwords
  obtain ⟨hreads, hoptions⟩ := follows_of_readWords hread hrestricts
  obtain ⟨extras, hreads⟩ := hreads []
  have hknown : ofConfiguration.readKnown args = .ok ⟨r.options.forConfiguration, extras⟩ := by
    rw [readKnown, hwords']
    exact hreads
  refine ⟨⟨extras, hknown⟩, ?_, fun c d ↦ Configuration.outcome_prepare hknown d c⟩
  rw [given_of_readKnown hknown hwords', given_of_readKnown hprogram hwords, hoptions]
  rfl

/-- A command line with options of both readings, shortened, with values beside and behind them, and
a value and an input that look like options of the configuration. -/
def mixedLine : List String :=
  ["-o", "x y", "--conf=c", "--met", "A", "--d", "-o-4", "--log-level=INFO", "--strict", "--method",
    "-7", "--output=--strict", "--", "--keep-nops"]

theorem readKnown_of_mixedLine :
    ofProgram.readAll mixedLine = .ok ⟨some (.text "c"), some (.text "-7"), true, false,
        some (.text "INFO"), some (.text "--strict"), true, some "--keep-nops"⟩ ∧
      (∃ extras, ofConfiguration.readKnown mixedLine = .ok ⟨⟨some (.text "c"), some (.text "-7"),
        true, false, some (.text "INFO"), none, false, none⟩, extras⟩) ∧
      ofConfiguration.given mixedLine = [(.config, .text "c"), (.method, .text "A"),
        (.logLevel, .text "INFO"), (.strict, .nothing), (.method, .text "-7")] := by
  have h : ofProgram.readAll mixedLine = .ok ⟨some (.text "c"), some (.text "-7"), true, false,
      some (.text "INFO"), some (.text "--strict"), true, some "--keep-nops"⟩ := by
    decide +kernel
  have hgiven : ((ofProgram.given mixedLine).filter fun occurrence ↦
      occurrence.1.concernsConfiguration) = [(.config, .text "c"), (.method, .text "A"),
        (.logLevel, .text "INFO"), (.strict, .nothing), (.method, .text "-7")] := by
    decide +kernel
  obtain ⟨hread, hall, -⟩ := readKnown_of_readAll h
  exact ⟨h, hread, hall.trans hgiven⟩

end Grammar

end StructuredIL
