import Resilience.Json.Draft
import Resilience.Proofs.Json.Scanning

/-!
# Reading what was written

The compact text of a value is read as the value (`Json.read?_compact`), unless the value is nested
too deep or holds a floating-point number that is read as another one (`Json.Legible`). The text is
scanned as the tokens of a draft, every draft is put together from its tokens
(`Draft.ofTokens?_tokens`), and the value is made of its draft.
-/

namespace Resilience.Json

/-! ## Drafts and their tokens -/

namespace Draft

mutual

/-- The tokens that spell a draft. -/
def tokens : Draft → List Token
  | .null => [.null]
  | .bool b => [.bool b]
  | .num n => [.num n]
  | .str s => [.str s]
  | .arr items => .leftBracket :: ([Token.comma].intercalate (itemTokens items) ++ [.rightBracket])
  | .obj members =>
    .leftBrace :: ([Token.comma].intercalate (memberTokens members) ++ [.rightBrace])

def itemTokens : List Draft → List (List Token)
  | [] => []
  | d :: rest => tokens d :: itemTokens rest

def memberTokens : List (Option String × Draft) → List (List Token)
  | [] => []
  | (k, d) :: rest => (.str k :: .colon :: tokens d) :: memberTokens rest

end

/-- The tokens of a member. -/
def entryTokens (m : Option String × Draft) : List Token := .str m.1 :: .colon :: m.2.tokens

theorem itemTokens_eq (items : List Draft) : itemTokens items = items.map tokens := by
  induction items with
  | nil => rfl
  | cons d rest ih => rw [itemTokens, ih, List.map_cons]

theorem memberTokens_eq (members : List (Option String × Draft)) :
    memberTokens members = members.map entryTokens := by
  induction members with
  | nil => rfl
  | cons m rest ih => rw [memberTokens, ih, List.map_cons, entryTokens]

namespace Assembly

variable {a : Assembly}

/-- Whether a value may come next. -/
def AwaitsValue (a : Assembly) : Prop := a.expect = .value ∨ a.expect = .valueOrClose

/-- Whether a key may come next, after these members. -/
def AwaitsKey (a : Assembly) (done : List (Option String × Draft)) : Prop :=
  a.expect = .key done ∨ a.expect = .keyOrClose ∧ done = []

theorem AwaitsValue.step (h : a.AwaitsValue) {t : Token} (ht : t ≠ .rightBracket) :
    a.step t = a.value t := by
  obtain ⟨frames, expect⟩ := a
  rcases h with rfl | rfl
  · rfl
  · cases t <;> first | rfl | exact absurd rfl ht

theorem AwaitsKey.step {done : List (Option String × Draft)} (h : a.AwaitsKey done)
    (k : Option String) : a.step (.str k) = some ⟨a.frames, .colon done k⟩ := by
  obtain ⟨frames, expect⟩ := a
  rcases h with rfl | ⟨rfl, rfl⟩ <;> rfl

end Assembly

/-- The tokens give the draft wherever a value may stand. -/
def Assembles (ts : List Token) (d : Draft) : Prop :=
  ∀ a : Assembly, a.AwaitsValue → ts.foldlM Assembly.step a = some (.finish a.frames d)

/-- After the first item, which is given apart from the others, each has a comma before it. -/
theorem foldlM_items {d : Draft} {rest done : List Draft} {a : Assembly} {frames : List Frame}
    (h : ∀ e ∈ d :: rest, Assembles e.tokens e) (ha : a.AwaitsValue)
    (hframes : a.frames = .items done :: frames) :
    ([Token.comma].intercalate ((d :: rest).map tokens) ++ [Token.rightBracket]).foldlM
      Assembly.step a = some (.finish frames (.arr (done.reverse ++ d :: rest))) := by
  obtain ⟨hd, hrest⟩ := List.forall_mem_cons.1 h
  induction rest generalizing d done a with
  | nil =>
    have hclose : Assembly.step ⟨.items done :: frames, .commaOrClose d⟩ .rightBracket =
      some (.finish frames (.arr (d :: done).reverse)) := rfl
    simp [List.foldlM_append, hd a ha, Assembly.finish, hframes, hclose]
  | cons e rest ih =>
    have hcomma : Assembly.step ⟨.items done :: frames, .commaOrClose d⟩ .comma =
      some ⟨.items (d :: done) :: frames, .value⟩ := rfl
    obtain ⟨he, hafter⟩ := List.forall_mem_cons.1 hrest
    have hnext := ih (a := ⟨.items (d :: done) :: frames, .value⟩) hrest (.inl rfl) rfl he hafter
    simp only [List.map_cons, List.intercalate_cons_cons, List.append_assoc, List.foldlM_append,
      hd a ha, Assembly.finish, hframes, hcomma, List.foldlM_cons, List.foldlM_nil,
      Option.bind_eq_bind, Option.bind_some, Option.pure_def] at hnext ⊢
    simpa using hnext

theorem foldlM_entry {m : Option String × Draft} {done : List (Option String × Draft)}
    {a : Assembly} (h : Assembles m.2.tokens m.2) (ha : a.AwaitsKey done) :
    (entryTokens m).foldlM Assembly.step a =
      some ⟨.members done m.1 :: a.frames, .commaOrClose m.2⟩ := by
  have hcolon : Assembly.step ⟨a.frames, .colon done m.1⟩ .colon =
    some ⟨.members done m.1 :: a.frames, .value⟩ := rfl
  simp [entryTokens, ha.step, hcolon, h ⟨_, .value⟩ (.inl rfl), Assembly.finish]

theorem foldlM_members {m : Option String × Draft} {rest done : List (Option String × Draft)}
    {a : Assembly} (h : ∀ e ∈ m :: rest, Assembles e.2.tokens e.2) (ha : a.AwaitsKey done) :
    ([Token.comma].intercalate ((m :: rest).map entryTokens) ++ [Token.rightBrace]).foldlM
      Assembly.step a = some (.finish a.frames (.obj (done.reverse ++ m :: rest))) := by
  obtain ⟨hm, hrest⟩ := List.forall_mem_cons.1 h
  induction rest generalizing m done a with
  | nil =>
    have hclose : Assembly.step ⟨.members done m.1 :: a.frames, .commaOrClose m.2⟩ .rightBrace =
      some (.finish a.frames (.obj (m :: done).reverse)) := rfl
    simp [List.foldlM_append, foldlM_entry hm ha, hclose]
  | cons e rest ih =>
    have hcomma : Assembly.step ⟨.members done m.1 :: a.frames, .commaOrClose m.2⟩ .comma =
      some ⟨a.frames, .key (m :: done)⟩ := rfl
    obtain ⟨he, hafter⟩ := List.forall_mem_cons.1 hrest
    have hnext := ih (a := ⟨a.frames, .key (m :: done)⟩) hrest (.inl rfl) he hafter
    simp only [List.map_cons, List.intercalate_cons_cons, List.append_assoc, List.foldlM_append,
      foldlM_entry hm ha, hcomma, List.foldlM_cons, List.foldlM_nil, Option.bind_eq_bind,
      Option.bind_some, Option.pure_def] at hnext ⊢
    simpa using hnext

theorem assembles_arr {items : List Draft} (h : ∀ d ∈ items, Assembles d.tokens d) :
    Assembles (Draft.arr items).tokens (.arr items) := by
  intro a ha
  have hopen : a.step .leftBracket = some ⟨.items [] :: a.frames, .valueOrClose⟩ :=
    ha.step (by decide)
  rw [tokens, List.foldlM_cons, hopen, Option.bind_eq_bind, Option.bind_some, itemTokens_eq]
  cases items with
  | nil => rfl
  | cons d rest => exact foldlM_items (a := ⟨_, .valueOrClose⟩) h (.inr rfl) rfl

theorem assembles_obj {members : List (Option String × Draft)}
    (h : ∀ m ∈ members, Assembles m.2.tokens m.2) :
    Assembles (Draft.obj members).tokens (.obj members) := by
  intro a ha
  have hopen : a.step .leftBrace = some ⟨a.frames, .keyOrClose⟩ := ha.step (by decide)
  rw [tokens, List.foldlM_cons, hopen, Option.bind_eq_bind, Option.bind_some, memberTokens_eq]
  cases members with
  | nil => rfl
  | cons m rest => exact foldlM_members (a := ⟨_, .keyOrClose⟩) h (.inr ⟨rfl, rfl⟩)

mutual

theorem assembles_tokens : ∀ d : Draft, Assembles d.tokens d
  | .null | .bool _ | .num _ | .str _ => fun a ha => by simp [tokens, ha.step, Assembly.value]
  | .arr items => assembles_arr (assembles_items items)
  | .obj members => assembles_obj (assembles_members members)

theorem assembles_items : ∀ items : List Draft, ∀ d ∈ items, Assembles d.tokens d
  | [] => by simp
  | d :: rest => List.forall_mem_cons.2 ⟨assembles_tokens d, assembles_items rest⟩

theorem assembles_members :
    ∀ members : List (Option String × Draft), ∀ m ∈ members, Assembles m.2.tokens m.2
  | [] => by simp
  | (_, d) :: rest => List.forall_mem_cons.2 ⟨assembles_tokens d, assembles_members rest⟩

end

theorem ofTokens?_tokens (d : Draft) : ofTokens? d.tokens = some d := by
  rw [ofTokens?, assembles_tokens d _ (.inl rfl)]
  rfl

end Draft

/-! ## Values and their drafts -/

mutual

/-- The draft of the text of a value. -/
def draft : Json → Draft
  | .null => .null
  | .bool b => .bool b
  | .num n => .num (some n)
  | .str s => .str (some s)
  | .arr items => .arr (draftItems items)
  | .obj members => .obj (draftMembers members)

def draftItems : List Json → List Draft
  | [] => []
  | v :: rest => draft v :: draftItems rest

def draftMembers : List (String × Json) → List (Option String × Draft)
  | [] => []
  | (k, v) :: rest => (some k, draft v) :: draftMembers rest

end

theorem draftItems_eq (items : List Json) : draftItems items = items.map draft := by
  induction items with
  | nil => rfl
  | cons v rest ih => rw [draftItems, ih, List.map_cons]

theorem draftMembers_eq (members : List (String × Json)) :
    draftMembers members = members.map fun (k, v) => (some k, draft v) := by
  induction members with
  | nil => rfl
  | cons m rest ih => rw [draftMembers, ih, List.map_cons]

/-- Values of which the text can be read: arrays and objects are nested at most so deep, no integer
needs more than 64 bits, and each floating-point number is read as itself. -/
inductive Legible : Nat → Json → Prop
  | null {depth : Nat} : Legible depth .null
  | bool {depth : Nat} (b : Bool) : Legible depth (.bool b)
  | int {depth : Nat} {i : Int} (hlow : -0x8000000000000000 ≤ i) (hhigh : i < 0x10000000000000000) :
    Legible depth (.num (.int i))
  | float {depth : Nat} {x : Binary64} (h : (Number.float x).Legible) :
    Legible depth (.num (.float x))
  | str {depth : Nat} (s : String) : Legible depth (.str s)
  | arr {depth : Nat} {items : List Json} (h : ∀ v ∈ items, Legible depth v) :
    Legible (depth + 1) (.arr items)
  | obj {depth : Nat} (members : Dict Json) (h : ∀ m ∈ members.entries, Legible depth m.2) :
    Legible (depth + 1) (.ofDict members)

variable {depth : Nat} {v : Json}

theorem spells_compact (h : Legible depth v) : Token.Spells v.compact.toList v.draft.tokens := by
  induction h with
  | null => exact fun _ => ⟨_, rfl, rfl⟩
  | bool b => cases b <;> exact fun _ => ⟨_, rfl, rfl⟩
  | int hlow hhigh => exact Token.spells_number (Number.legible_int hlow hhigh)
  | float h => exact Token.spells_number h
  | str s => exact Token.spells_quote s
  | @arr _ items _ ih =>
    have hitems : ∀ p ∈ items.map fun v => (v.compact, v.draft.tokens),
        Token.Spells p.1.toList p.2 := by
      intro p hp
      obtain ⟨v, hv, rfl⟩ := List.mem_map.1 hp
      exact ih v hv
    have hblock := Token.spells_block '[' ']' rfl rfl hitems
    simpa [compact, draft, Draft.tokens, compactItems_eq, draftItems_eq, Draft.itemTokens_eq,
      Function.comp_def] using hblock
  | obj members _ ih =>
    have hmembers : ∀ p ∈ members.entries.map fun m =>
        (quote m.1 ++ ":" ++ m.2.compact, Draft.entryTokens (some m.1, m.2.draft)),
        Token.Spells p.1.toList p.2 := by
      intro p hp
      obtain ⟨m, hm, rfl⟩ := List.mem_map.1 hp
      have hentry := (Token.spells_quote m.1).mark (c := ':') rfl (ih m hm)
      simpa [Draft.entryTokens] using hentry
    have hblock := Token.spells_block '\x7b' '\x7d' rfl rfl hmembers
    simpa [ofDict, compact, draft, Draft.tokens, compactMembers_eq, draftMembers_eq,
      Draft.memberTokens_eq, Function.comp_def] using hblock

theorem toItems?_draft {items : List Json} (h : ∀ v ∈ items, v.draft.toJson? depth = some v) :
    Draft.toItems? depth (items.map draft) = some items := by
  induction items with
  | nil => rfl
  | cons v rest ih =>
    obtain ⟨hv, hrest⟩ := List.forall_mem_cons.1 h
    rw [List.map_cons, Draft.toItems?, hv, ih hrest]
    rfl

theorem toMembers?_draft {members : List (String × Json)}
    (h : ∀ m ∈ members, m.2.draft.toJson? depth = some m.2) :
    Draft.toMembers? depth (members.map fun (k, v) => (some k, v.draft)) = some members := by
  induction members with
  | nil => rfl
  | cons m rest ih =>
    obtain ⟨hm, hrest⟩ := List.forall_mem_cons.1 h
    rw [List.map_cons, Draft.toMembers?, hm, ih hrest]
    rfl

theorem toJson?_draft (h : Legible depth v) : v.draft.toJson? depth = some v := by
  induction h with
  | null | bool b | int hlow hhigh | float h | str s => rfl
  | arr h ih =>
    rw [draft, draftItems_eq, Draft.toJson?, if_neg (Nat.succ_ne_zero _), Nat.add_sub_cancel,
      toItems?_draft ih]
    rfl
  | obj members h ih =>
    rw [ofDict, draft, draftMembers_eq, Draft.toJson?, if_neg (Nat.succ_ne_zero _),
      Nat.add_sub_cancel, toMembers?_draft ih, Option.map_some, Dict.ofList_entries, ofDict]

theorem read?_compact (h : Legible maxDepth v) : read? v.compact = some v := by
  rw [read?, Draft.read?, (spells_compact h).scan, Option.bind_some, Draft.ofTokens?_tokens,
    Option.bind_some, toJson?_draft h]

/-- Members in the order of their keys make an object, also where some are missing. -/
theorem objSome_eq_ofDict {members : List (String × Option Json)}
    (hkeys : (members.map (·.1)).Pairwise (· < ·)) :
    ∃ d : Dict Json, objSome members = .ofDict d ∧ ∀ m ∈ d.entries, (m.1, some m.2) ∈ members := by
  have hordered : (members.filterMap fun m => m.2.map (m.1, ·)).Pairwise
      (fun a b => a.1 < b.1) := by
    refine (List.pairwise_map.1 hkeys).filterMap _ fun a b hab a' ha' b' hb' => ?_
    obtain ⟨v, _, rfl⟩ := Option.map_eq_some_iff.1 ha'
    obtain ⟨w, _, rfl⟩ := Option.map_eq_some_iff.1 hb'
    exact hab
  refine ⟨⟨_, hordered⟩, rfl, fun m hm => ?_⟩
  obtain ⟨⟨k, _⟩, hn, hm⟩ := List.mem_filterMap.1 hm
  obtain ⟨v, rfl, rfl⟩ := Option.map_eq_some_iff.1 hm
  exact hn

/-- Members that are left out when they are missing. -/
theorem Legible.objSome {members : List (String × Option Json)}
    (hkeys : (members.map (·.1)).Pairwise (· < ·))
    (h : ∀ m ∈ members, ∀ v ∈ m.2, Legible depth v) : Legible (depth + 1) (objSome members) := by
  obtain ⟨d, hd, hmembers⟩ := objSome_eq_ofDict hkeys
  rw [hd]
  exact .obj d fun m hm => h _ (hmembers m hm) _ rfl

end Resilience.Json
