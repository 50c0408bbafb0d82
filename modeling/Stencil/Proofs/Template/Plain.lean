import Stencil.Template.Render

/-! Templates without tags.

Every tag starts with an opening brace, so that in a text without one no tag is read (`Refuses`).
Such a text is read as a single piece and rendered as it stands. -/

namespace Stencil.Template

namespace Parser

open Stencil.Parser

variable {α β : Type}

/-- A reader that reads nothing where there is no opening brace. -/
def Refuses (p : Parser α) : Prop := ∀ cs : List Char, '\x7b' ∉ cs → p cs = none

theorem orElse_of_none {p q : Parser α} {cs : List Char} (h : p cs = none) :
    (p <|> q) cs = q cs := by
  have hunfold : (p <|> q) cs = (p cs <|> q cs) := rfl
  rw [hunfold, h]
  rfl

/-- A reader that refuses adds nothing to the choice of another one. -/
theorem orElse_refuses {p q : Parser α} (hq : Refuses q) {cs : List Char} (h : '\x7b' ∉ cs) :
    (p <|> q) cs = p cs := by
  cases hp : p cs with
  | none => rw [orElse_of_none hp, hq cs h]
  | some a =>
    have hunfold : (p <|> q) cs = (p cs <|> q cs) := rfl
    rw [hunfold, hp]
    rfl

theorem bind_of_some {p : Parser α} {f : α → Parser β} {cs rest : List Char} {a : α}
    (h : p cs = some (a, rest)) : (p >>= f) cs = f a rest := by
  simp [Bind.bind, StateT.bind, h]

namespace Refuses

theorem of_exactly {s : String} (h : s.toList.head? = some '\x7b') : Refuses (exactly s) := by
  intro cs hcs
  rw [exactly, if_neg]
  intro hprefix
  obtain ⟨rest, rfl⟩ := List.isPrefixOf_iff_prefix.mp hprefix
  exact hcs (List.mem_append_left _ (List.mem_of_head? h))

theorem of_failure : Refuses (failure : Parser α) := fun _ _ => rfl

theorem bind {p : Parser α} (h : Refuses p) (f : α → Parser β) : Refuses (p >>= f) := by
  intro cs hcs
  simp [Bind.bind, StateT.bind, h cs hcs]

theorem orElse {p q : Parser α} (hp : Refuses p) (hq : Refuses q) : Refuses (p <|> q) := by
  intro cs hcs
  rw [orElse_of_none (hp cs hcs), hq cs hcs]

theorem afterSpaces {p : Parser α} (h : Refuses p) : Refuses (spaces >>= fun _ => p) := by
  intro cs hcs
  exact h _ fun hmem => hcs ((List.dropWhile_sublist _).subset hmem)

end Refuses

/-! ### Tags -/

theorem refuses_tagStart : Refuses tagStart :=
  .orElse ((Refuses.of_exactly rfl).bind _) ((Refuses.of_exactly rfl).bind _)

theorem refuses_printStart : Refuses printStart :=
  .orElse ((Refuses.of_exactly rfl).bind _) ((Refuses.of_exactly rfl).bind _)

theorem refuses_openTag (keyword : String) : Refuses (openTag keyword) := refuses_tagStart.bind _

theorem refuses_comment : Refuses comment :=
  Refuses.bind (.orElse ((Refuses.of_exactly rfl).bind _) ((Refuses.of_exactly rfl).bind _)) _

theorem refuses_raw : Refuses raw := Refuses.bind (refuses_tagStart.bind _) _

theorem refuses_importMacros : Refuses importMacros := ((refuses_openTag _).bind _).afterSpaces

theorem refuses_extend : Refuses extend := ((refuses_openTag _).bind _).afterSpaces

theorem refuses_branch (place : Place) : ∀ fuel, Refuses (branch place fuel)
  | 0 => .of_failure
  | 1 => by unfold branch oneCase; exact Refuses.of_failure.bind _
  | fuel + 2 => by unfold branch oneCase; exact ((refuses_openTag _).bind _).bind _

theorem refuses_loop : ∀ fuel, Refuses (loop fuel)
  | 0 => .of_failure
  | fuel + 1 => by unfold loop; exact (refuses_openTag _).bind _

theorem refuses_block : ∀ fuel, Refuses (block fuel)
  | 0 => .of_failure
  | fuel + 1 => by unfold block; exact (refuses_openTag _).bind _

theorem refuses_defineMacro (fuel : Nat) : Refuses (defineMacro fuel) := (refuses_openTag _).bind _

/-! ### Text -/

theorem plainText_of_not_mem {cs : List Char} (h : '\x7b' ∉ cs) : plainText cs = (cs, []) := by
  induction cs with
  | nil => rfl
  | cons c cs ih =>
    have hstart : anyStart (c :: cs) = none :=
      Refuses.orElse (.of_exactly rfl) (.orElse (.of_exactly rfl) (.of_exactly rfl)) _ h
    rw [plainText, hstart, ih fun hmem => h (List.mem_cons_of_mem _ hmem)]
    rfl

/-- Where no brace is left, a text is all that there can be. -/
theorem node_of_not_mem {cs : List Char} (h : '\x7b' ∉ cs) (fuel : Nat) :
    node .outside (fuel + 1) cs = text cs := by
  unfold node
  refine orElse_refuses (.orElse ?_ ?_) h
  · exact .of_failure
  refine .orElse (refuses_printStart.bind _) (.orElse refuses_comment (.orElse refuses_raw ?_))
  refine .orElse ((refuses_openTag _).bind _) (.orElse ((refuses_openTag _).bind _) ?_)
  exact .orElse (refuses_branch _ _) (.orElse (refuses_loop _) (refuses_block _))

theorem manyFrom_of_none {p : Parser α} {cs : List Char} (h : p cs = none) :
    manyFrom p cs = ([], cs) := by
  rw [manyFrom, h]

/-- A text without braces is read as a single piece. -/
theorem template_of_not_mem {cs : List Char} (h : '\x7b' ∉ cs) (hne : cs ≠ []) (fuel : Nat) :
    (template (fuel + 1)).run cs = some ([.text (.ofList cs)], []) := by
  have hcomments : many comment cs = some ([], cs) := by
    rw [many, manyFrom_of_none (refuses_comment cs h)]
  have himports : many importMacros cs = some ([], cs) := by
    rw [many, manyFrom_of_none (refuses_importMacros cs h)]
  have hextend : maybe extend cs = some (none, cs) := by
    rw [maybe, refuses_extend cs h]
  have hreferences : references cs = some ([], cs) := by
    rw [references, orElse_of_none (refuses_extend.bind _ cs h), bind_of_some himports,
      bind_of_some hextend]
    rfl
  have hpiece (ds : List Char) (hds : '\x7b' ∉ ds) :
      (node .outside (fuel + 1) <|> defineMacro (fuel + 1)) ds = text ds := by
    rw [orElse_refuses (refuses_defineMacro _) hds, node_of_not_mem hds]
  have htext : text cs = some (.text (.ofList cs), []) := by
    rw [text, plainText_of_not_mem h]
    simp [hne]
  have hbody : many (node .outside (fuel + 1) <|> defineMacro (fuel + 1)) cs =
      some ([.text (.ofList cs)], []) := by
    have hlength : ([] : List Char).length < cs.length := List.length_pos_iff.mpr hne
    have hend : manyFrom (node .outside (fuel + 1) <|> defineMacro (fuel + 1)) [] = ([], []) :=
      manyFrom_of_none (hpiece [] (by simp))
    rw [many, manyFrom, hpiece cs h, htext]
    simp only [hlength, if_true, hend]
  unfold template
  rw [StateT.run, bind_of_some hcomments, bind_of_some hreferences, bind_of_some hbody]
  rfl

end Parser

/-- A template that is a single piece of text. -/
def Source.plain (name text : String) : Source :=
  { name, nodes := [.text text], parent := none, imports := [], macros := [], blocks := [] }

/-- A text without braces is read as it stands. -/
theorem Source.parse?_of_not_mem (name : String) {text : String} (h : '\x7b' ∉ text.toList)
    (hne : text ≠ "") : Source.parse? name text = some (.plain name text) := by
  have hread := Parser.template_of_not_mem h (by simpa using hne) (2 * text.toList.length + 15)
  unfold parse?
  have htrim : trimBody false false [.text text] = [.text text] := by
    simp [trimBody, trimFrom, turnBack]
  simp only [hread, Option.bind_eq_bind, Option.bind_some, String.ofList_toList, htrim]
  simp [blocksOf, Node.blocks, macrosOf, parentOf, importsOf, plain]

theorem renderNested_text (depth : Nat) (text : String) (s : Scope) :
    ((renderNested depth [.text text]).run.run s).1 = some text := by
  have hnodes (deeper : Deeper) :
      ((renderNodes deeper [.text text]).run.run s).1 = some text := by
    simp only [renderNodes, renderNode]
    exact congrArg some String.append_empty
  cases depth with
  | zero => exact hnodes none
  | succ depth => exact hnodes (some (renderNested depth))

/-- A template that is a single piece of text renders to it. -/
theorem Library.render?_plain {l : Library} {name text : String}
    (h : l.get? name = some (.plain name text)) (context : Fields) :
    l.render? name context = some text := by
  have hchain : l.chain (.plain name text) = [.plain name text] := by
    simp [chain, ancestors, ancestorsFrom, Source.plain]
  unfold render?
  simp only [h, hchain, Option.bind_eq_bind, Option.bind_some, List.getLast?_singleton]
  exact renderNested_text 1000 text _

end Stencil.Template
