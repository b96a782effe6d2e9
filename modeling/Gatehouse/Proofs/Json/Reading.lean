import Gatehouse.Proofs.Json.Literal
import Gatehouse.Proofs.Text.Utf8

/-! Reading back what the writer wrote. A value whose numbers are integers comes back as it was,
apart from how its texts are spelled. -/
namespace Gatehouse.Json

mutual

/-- The value as it is read after it was written. -/
def reread : Json → Json
  | .text s => .text (written (s.text?.getD ""))
  | .array items => .array (rereadItems items)
  | .object members => .object (rereadMembers members)
  | j => j

def rereadItems : List Json → List Json
  | [] => []
  | item :: items => reread item :: rereadItems items

def rereadMembers : List Member → List Member
  | [] => []
  | (key, value) :: members =>
    (written (key.text?.getD ""), reread value) :: rereadMembers members

end

mutual

/-- Whether all numbers in a value are integers as the writer spells them. -/
def IsIntegral : Json → Prop
  | .number n => ∃ i, n = .ofInt i
  | .array items => AreIntegral items
  | .object members => MembersAreIntegral members
  | _ => True

def AreIntegral : List Json → Prop
  | [] => True
  | item :: items => IsIntegral item ∧ AreIntegral items

def MembersAreIntegral : List Member → Prop
  | [] => True
  | (_, value) :: members => IsIntegral value ∧ MembersAreIntegral members

end

mutual

/-- The lexemes of a value. -/
def lexemes : Json → List Lexeme
  | .array [] => [.openArray, .closeArray]
  | .array (item :: items) => .openArray :: lexemes item ++ itemLexemes items
  | .object [] => [.openObject, .closeObject]
  | .object ((key, value) :: members) =>
    .openObject :: .literal (.text key) :: .colon :: lexemes value ++ memberLexemes members
  | j => [.literal j]

/-- The lexemes of the items after the first one, up to the closing bracket. -/
def itemLexemes : List Json → List Lexeme
  | [] => [.closeArray]
  | item :: items => .comma :: lexemes item ++ itemLexemes items

/-- The lexemes of the members after the first one, up to the closing brace. -/
def memberLexemes : List Member → List Lexeme
  | [] => [.closeObject]
  | (key, value) :: members =>
    .comma :: .literal (.text key) :: .colon :: lexemes value ++ memberLexemes members

end

/-! ## From text to lexemes -/

private theorem run_mark {s : Scanner} {found : List Lexeme} (hs : s.Holds found) {c : Char}
    {lexeme : Lexeme} (hc : mark? c = some lexeme) (hspace : isSpace c = false) (hquote : c ≠ '"')
    (cs : List Char) : s.run (c :: cs) = Scanner.run ⟨.gap, lexeme :: found⟩ cs := by
  rw [Scanner.run_cons, hs.step_mark hc hspace hquote, Option.bind_some]

private theorem run_quoted_colon (key : String) (found : List Lexeme) (cs : List Char) :
    Scanner.run ⟨.gap, found⟩ (quotedText key ++ ':' :: cs) =
      Scanner.run ⟨.gap, .colon :: .literal (.text (written key)) :: found⟩ cs := by
  rw [Scanner.run_append, Scanner.run_quotedText, Option.bind_some]
  exact run_mark (.gap _) rfl rfl (by decide) cs

mutual

theorem run_render : ∀ (j : Json), j.IsIntegral → ∀ found : List Lexeme,
    ∃ s, Scanner.run ⟨.gap, found⟩ j.render = some s ∧
      s.Holds (j.reread.lexemes.reverse ++ found)
  | .null, _, found => Scanner.run_word rfl (by simp [render]) (endsWord_of_all rfl) found
  | .bool true, _, found => Scanner.run_word rfl (by simp [render]) (endsWord_of_all rfl) found
  | .bool false, _, found => Scanner.run_word rfl (by simp [render]) (endsWord_of_all rfl) found
  | .number n, h, found => by
    obtain ⟨i, rfl⟩ := h
    exact Scanner.run_word (word?_ofInt i) (renderNumeral_ne_nil i)
      (fun c hc => endsWord_renderNumeral hc) found
  | .text s, _, found => ⟨_, Scanner.run_quotedText _ found, .gap _⟩
  | .array [], _, found => by
    refine ⟨⟨.gap, .closeArray :: .openArray :: found⟩, ?_, .gap _⟩
    rw [render, run_mark (.gap _) rfl rfl (by decide), run_mark (.gap _) rfl rfl (by decide)]
    rfl
  | .array (item :: items), h, found => by
    obtain ⟨s, hs, hholds⟩ := run_render item h.1 (.openArray :: found)
    refine ⟨_, ?_, .gap _⟩
    rw [render, List.cons_append, run_mark (.gap _) rfl rfl (by decide), Scanner.run_append, hs,
      Option.bind_some, run_renderItems items h.2 s _ hholds]
    simp [reread, rereadItems, lexemes]
  | .object [], _, found => by
    refine ⟨⟨.gap, .closeObject :: .openObject :: found⟩, ?_, .gap _⟩
    rw [render, run_mark (.gap _) rfl rfl (by decide), run_mark (.gap _) rfl rfl (by decide)]
    rfl
  | .object ((key, value) :: members), h, found => by
    obtain ⟨s, hs, hholds⟩ := run_render value h.1
      (.colon :: .literal (.text (written (key.text?.getD ""))) :: .openObject :: found)
    refine ⟨_, ?_, .gap _⟩
    simp only [render, List.cons_append, List.append_assoc]
    rw [run_mark (.gap _) rfl rfl (by decide), run_quoted_colon, Scanner.run_append, hs,
      Option.bind_some, run_renderMembers members h.2 s _ hholds]
    simp [reread, rereadMembers, lexemes]

theorem run_renderItems : ∀ (items : List Json), AreIntegral items → ∀ (s : Scanner)
    (found : List Lexeme), s.Holds found →
    s.run (renderItems items) = some ⟨.gap, (itemLexemes (rereadItems items)).reverse ++ found⟩
  | [], _, s, found, hs => by
    rw [renderItems, run_mark hs rfl rfl (by decide)]
    rfl
  | item :: items, h, s, found, hs => by
    obtain ⟨s', hs', hholds⟩ := run_render item h.1 (.comma :: found)
    rw [renderItems, List.cons_append, run_mark hs rfl rfl (by decide), Scanner.run_append, hs',
      Option.bind_some, run_renderItems items h.2 s' _ hholds]
    simp [rereadItems, itemLexemes]

theorem run_renderMembers : ∀ (members : List Member), MembersAreIntegral members → ∀ (s : Scanner)
    (found : List Lexeme), s.Holds found →
    s.run (renderMembers members) =
      some ⟨.gap, (memberLexemes (rereadMembers members)).reverse ++ found⟩
  | [], _, s, found, hs => by
    rw [renderMembers, run_mark hs rfl rfl (by decide)]
    rfl
  | (key, value) :: members, h, s, found, hs => by
    obtain ⟨s', hs', hholds⟩ := run_render value h.1
      (.colon :: .literal (.text (written (key.text?.getD ""))) :: .comma :: found)
    simp only [renderMembers, List.cons_append, List.append_assoc]
    rw [run_mark hs rfl rfl (by decide), run_quoted_colon, Scanner.run_append, hs',
      Option.bind_some, run_renderMembers members h.2 s' _ hholds]
    simp [rereadMembers, memberLexemes]

end

theorem lexemes?_render (j : Json) (hj : j.IsIntegral) :
    lexemes? (j.render.map some) = some j.reread.lexemes := by
  obtain ⟨s, hs, hholds⟩ := run_render j hj []
  rw [List.append_nil] at hholds
  unfold lexemes?
  rw [show (j.render.map some).foldlM Scanner.step ⟨.gap, []⟩ = some s from hs]
  generalize j.reread.lexemes = expected at hholds ⊢
  generalize hfound : expected.reverse = found at hholds
  rw [← List.reverse_reverse expected, hfound]
  cases hholds with
  | gap => rfl
  | word found h => simp [h]

/-! ## From lexemes to values -/

def Assembly.run (a : Assembly) (ls : List Lexeme) : Option Assembly :=
  ls.foldlM Assembly.step a

theorem Assembly.run_cons (a : Assembly) (l : Lexeme) (ls : List Lexeme) :
    a.run (l :: ls) = (a.step l).bind fun a => a.run ls := rfl

theorem Assembly.run_append (a : Assembly) (ls ms : List Lexeme) :
    a.run (ls ++ ms) = (a.run ls).bind fun a => a.run ms := by
  unfold Assembly.run
  rw [List.foldlM_append]
  rfl

/-- A value never starts with a closing bracket, so it may stand where the first item may. -/
private theorem run_firstItem (j : Json) (frames : List Frame) (ls : List Lexeme) :
    Assembly.run ⟨frames, .firstItem⟩ (j.lexemes ++ ls) =
      Assembly.run ⟨.array [] :: frames, .value⟩ (j.lexemes ++ ls) := by
  unfold lexemes
  split <;> rfl

mutual

theorem run_lexemes : ∀ (j : Json) (frames : List Frame),
    Assembly.run ⟨frames, .value⟩ j.lexemes = some (.finish j frames)
  | .null, frames => rfl
  | .bool _, frames => rfl
  | .number _, frames => rfl
  | .text _, frames => rfl
  | .array [], frames => rfl
  | .array (item :: items), frames => by
    have hopen : Assembly.step ⟨frames, .value⟩ .openArray = some ⟨frames, .firstItem⟩ := rfl
    rw [lexemes, List.cons_append, Assembly.run_cons, hopen, Option.bind_some, run_firstItem,
      Assembly.run_append, run_lexemes item, Option.bind_some, Assembly.finish,
      run_itemLexemes items]
    rfl
  | .object [], frames => rfl
  | .object ((key, value) :: members), frames => by
    have hopen : Assembly.step ⟨frames, .value⟩ .openObject = some ⟨frames, .firstKey⟩ := rfl
    have hkey : Assembly.step ⟨frames, .firstKey⟩ (.literal (.text key)) =
        some ⟨frames, .colon [] key⟩ := rfl
    have hcolon : Assembly.step ⟨frames, .colon [] key⟩ .colon =
        some ⟨.object [] key :: frames, .value⟩ := rfl
    simp only [lexemes, List.cons_append]
    rw [Assembly.run_cons, hopen, Option.bind_some, Assembly.run_cons, hkey, Option.bind_some,
      Assembly.run_cons, hcolon, Option.bind_some, Assembly.run_append, run_lexemes value,
      Option.bind_some, Assembly.finish, run_memberLexemes members]
    rfl

theorem run_itemLexemes : ∀ (items : List Json) (frames : List Frame) (done : List Json),
    Assembly.run ⟨frames, .afterItem done⟩ (itemLexemes items) =
      some (.finish (.array (done.reverse ++ items)) frames)
  | [], frames, done => by
    rw [List.append_nil]
    rfl
  | item :: items, frames, done => by
    have hcomma : Assembly.step ⟨frames, .afterItem done⟩ .comma =
        some ⟨.array done :: frames, .value⟩ := rfl
    rw [itemLexemes, List.cons_append, Assembly.run_cons, hcomma, Option.bind_some,
      Assembly.run_append, run_lexemes item, Option.bind_some, Assembly.finish,
      run_itemLexemes items]
    simp

theorem run_memberLexemes : ∀ (members : List Member) (frames : List Frame) (done : List Member),
    Assembly.run ⟨frames, .afterMember done⟩ (memberLexemes members) =
      some (.finish (.object (done.reverse ++ members)) frames)
  | [], frames, done => by
    rw [List.append_nil]
    rfl
  | (key, value) :: members, frames, done => by
    have hcomma : Assembly.step ⟨frames, .afterMember done⟩ .comma = some ⟨frames, .key done⟩ := rfl
    have hkey : Assembly.step ⟨frames, .key done⟩ (.literal (.text key)) =
        some ⟨frames, .colon done key⟩ := rfl
    have hcolon : Assembly.step ⟨frames, .colon done key⟩ .colon =
        some ⟨.object done key :: frames, .value⟩ := rfl
    simp only [memberLexemes, List.cons_append]
    rw [Assembly.run_cons, hcomma, Option.bind_some, Assembly.run_cons, hkey, Option.bind_some,
      Assembly.run_cons, hcolon, Option.bind_some, Assembly.run_append, run_lexemes value,
      Option.bind_some, Assembly.finish, run_memberLexemes members]
    simp

end

theorem ofLexemes?_lexemes (j : Json) : ofLexemes? j.lexemes = some j := by
  have h := run_lexemes j []
  unfold Assembly.run at h
  unfold ofLexemes?
  rw [h]
  rfl

theorem parse?_compact (j : Json) (hj : j.IsIntegral) : parse? j.compact = some j.reread := by
  unfold parse? ofSymbols? compact
  rw [String.toList_ofList, lexemes?_render j hj]
  exact ofLexemes?_lexemes j.reread

theorem ofBytes?_toBytes_compact (j : Json) (hj : j.IsIntegral) :
    ofBytes? (Text.toBytes j.compact) = some j.reread := by
  unfold ofBytes?
  rw [Text.symbols_toBytes]
  exact parse?_compact j hj

end Gatehouse.Json
