import RouteMatch.CommandLine

/-!
# What the words of a command say

The words of a command are switches, values of switches and arguments.  A word is a switch if it
is written like one, in full or so far that it could be no other, and perhaps has a value behind an
equals sign; a switch that needs a value takes the next word otherwise.  All words after the mark
are arguments, and so are those before it that are no switches.

This is a grammar of the words, which does not mention how they are read.  What is read of a
command line is what its words say.

## Main definitions

* `Names`, `Writes` — a text names a switch, and a word is a switch, perhaps with a value.
* `Says` — what the words of a command say: its switches with their values, and its arguments.
* `Reading.IsSound` — settings that go together.

## Main results

* `writes_of_roleOf`, `isArgument_of_roleOf` — what is taken as a switch is one, and what is taken
  as an argument is none.
* `readWords_preserves` — what every step of reading preserves is preserved by reading.
* `exists_says` — **what is read is what the words say.**
* `isSound_readWords` — settings that are read go together.
-/

namespace RouteMatch.CommandLine

/-! ### Switches and arguments -/

section Grammar

variable (known : List Switch)

/-- A text names a switch.  It is written like the switch, or it is the beginning, with two
hyphens, of how the switch is written and of nothing else. -/
def Names (text : List Char) (s : Switch) : Prop :=
  (text, s) ∈ spellingsOf known ∨
    ['-', '-'] <+: text ∧ ∃ spelling, (spelling, s) ∈ spellingsOf known ∧ text <+: spelling ∧
      ∀ other ∈ spellingsOf known, text <+: other.1 → other = (spelling, s)

/-- A word is a switch, with a value after its first equals sign or without one. -/
def Writes (word : List Char) (s : Switch) : Option (List Char) → Prop
  | none => Names known word s
  | some value => ∃ front, word = front ++ '=' :: value ∧ '=' ∉ front ∧ Names known front s

/-- A word is no switch. -/
def IsArgument (word : List Char) : Prop :=
  ∀ s value, ¬Writes known word s value

/-- What the words of a command say: its switches in order, each with its value or an empty text,
and its arguments. -/
inductive Says : List String → List (Switch × String) → (arguments : List String) → Prop
  | nil : Says [] [] []
  /-- All words after the mark are arguments. -/
  | mark (rest : List String) : Says ("--" :: rest) [] rest
  | argument {word : String} {rest : List String} {settings : List (Switch × String)}
      {arguments : List String} (hword : IsArgument known word.toList)
      (hrest : Says rest settings arguments) : Says (word :: rest) settings (word :: arguments)
  /-- A switch without a value. -/
  | plain {s : Switch} {word : String} {rest : List String} {settings : List (Switch × String)}
      {arguments : List String} (hs : s.takesValue = false)
      (hword : Writes known word.toList s none) (hrest : Says rest settings arguments) :
      Says (word :: rest) ((s, "") :: settings) arguments
  /-- A switch with its value behind an equals sign. -/
  | joined {s : Switch} {word value : String} {rest : List String}
      {settings : List (Switch × String)} {arguments : List String} (hs : s.takesValue = true)
      (hword : Writes known word.toList s (some value.toList))
      (hrest : Says rest settings arguments) :
      Says (word :: rest) ((s, value) :: settings) arguments
  /-- A switch with its value in the next word. -/
  | separate {s : Switch} {word value : String} {rest : List String}
      {settings : List (Switch × String)} {arguments : List String} (hs : s.takesValue = true)
      (hword : Writes known word.toList s none) (hvalue : IsArgument known value.toList)
      (hrest : Says rest settings arguments) :
      Says (word :: value :: rest) ((s, value) :: settings) arguments

end Grammar

/-! ### The roles of words -/

section Roles

variable {known : List Switch}

/-- Every spelling begins with a hyphen, goes on, and has no equals sign. -/
theorem spelling_cases {spelling : List Char} {s : Switch}
    (h : (spelling, s) ∈ spellingsOf known) :
    (∃ c rest, spelling = '-' :: c :: rest) ∧ '=' ∉ spelling := by
  obtain ⟨t, -, hmem⟩ := List.mem_flatMap.mp h
  obtain ⟨text, htext, heq⟩ := List.mem_map.mp hmem
  obtain ⟨rfl, rfl⟩ := Prod.mk.inj heq
  have hall : (t.spellings.all fun text => ['-'].isPrefixOf text.toList
      && decide (2 ≤ text.toList.length) && !text.toList.contains '=') = true := by
    cases t <;> decide
  obtain ⟨hshape, hequals⟩ := Bool.and_eq_true_iff.mp (List.all_eq_true.mp hall text htext)
  obtain ⟨hbegins, hlong⟩ := Bool.and_eq_true_iff.mp hshape
  refine ⟨?_, by simpa using hequals⟩
  obtain ⟨tail, htail⟩ := List.isPrefixOf_iff_prefix.mp hbegins
  have hlong := of_decide_eq_true hlong
  rw [← htail] at hlong ⊢
  cases tail with
  | nil => exact absurd hlong (by decide)
  | cons c rest => exact ⟨c, rest, rfl⟩

/-- A name of a switch begins with a hyphen, goes on, and has no equals sign. -/
theorem Names.cases {text : List Char} {s : Switch} (h : Names known text s) :
    (∃ c rest, text = '-' :: c :: rest) ∧ '=' ∉ text := by
  rcases h with hfull | ⟨⟨rest, rfl⟩, spelling, hmem, hbegins, -⟩
  · exact spelling_cases hfull
  · refine ⟨⟨'-', rest, rfl⟩, ?_⟩
    intro hequals
    exact (spelling_cases hmem).2 (hbegins.subset hequals)

theorem writes_iff {word : List Char} {s : Switch} {value : Option (List Char)} :
    Writes known word s value ↔
      ∃ front, splitValue word = (front, value) ∧ Names known front s := by
  unfold splitValue
  cases hcut : Text.cut? '=' word with
  | none =>
    cases value with
    | none => simp [Writes]
    | some value =>
      refine iff_of_false ?_ (by simp)
      rintro ⟨front, hword, hequals, -⟩
      rw [Text.cut?_eq_some_iff.mpr ⟨hword, hequals⟩] at hcut
      cases hcut
  | some cut =>
    obtain ⟨front, back⟩ := cut
    obtain ⟨hword, hequals⟩ := Text.cut?_eq_some_iff.mp hcut
    cases value with
    | none =>
      refine iff_of_false ?_ (by simp)
      intro hnames
      apply (Names.cases hnames).2
      rw [hword]
      simp
    | some value =>
      constructor
      · rintro ⟨front', hword', hequals', hnames⟩
        obtain ⟨rfl, rfl⟩ := Prod.mk.inj (Option.some.inj
          (hcut.symm.trans (Text.cut?_eq_some_iff.mpr ⟨hword', hequals'⟩)))
        exact ⟨front, rfl, hnames⟩
      · rintro ⟨front', heq, hnames⟩
        obtain ⟨rfl, hback⟩ := Prod.mk.inj heq
        obtain rfl := Option.some.inj hback
        exact ⟨front, hword, hequals, hnames⟩

theorem mem_of_lookup {text : List Char} {s : Switch}
    (h : (spellingsOf known).lookup text = some s) : (text, s) ∈ spellingsOf known := by
  obtain ⟨front, back, heq, -⟩ := List.lookup_eq_some_iff.mp h
  rw [heq]
  simp

theorem exists_lookup_of_mem {text : List Char} {s : Switch}
    (h : (text, s) ∈ spellingsOf known) : ∃ t, (spellingsOf known).lookup text = some t := by
  cases hlookup : (spellingsOf known).lookup text with
  | some t => exact ⟨t, rfl⟩
  | none =>
    have hne := List.lookup_eq_none_iff.mp hlookup (text, s) h
    exact absurd hne (by simp)

theorem prefix_of_splitValue {word front : List Char} {value : Option (List Char)}
    (h : splitValue word = (front, value)) : front <+: word := by
  unfold splitValue at h
  split at h
  · exact (Prod.mk.inj h).1 ▸ List.prefix_rfl
  · next hcut =>
    obtain ⟨rfl, -⟩ := Prod.mk.inj h
    exact ⟨_, (Text.cut?_eq_some_iff.mp hcut).1.symm⟩

/-- A long switch is the beginning of one spelling only; another word is an argument or unknown. -/
theorem longRole_cases {word front : List Char} {value : Option (List Char)} {role : Role}
    (hsplit : splitValue word = (front, value)) (hdashes : ['-', '-'] <+: front)
    (h : longRole known word = .ok role) :
    (∃ s, role = .switch s value ∧ Names known front s) ∨ role = .argument ∨ role = .unknown := by
  unfold longRole at h
  rw [hsplit] at h
  simp only [] at h
  split at h
  · split at h
    · exact Or.inr (Or.inl (Except.ok.inj h).symm)
    · exact Or.inr (Or.inr (Except.ok.inj h).symm)
  · next spelling s hfilter =>
    have hmem : ∀ other, other ∈ spellingsOf known → front <+: other.1 → other = (spelling, s) := by
      intro other hother hbegins
      have hfiltered : other ∈ (spellingsOf known).filter fun entry => front.isPrefixOf entry.1 :=
        List.mem_filter.mpr ⟨hother, List.isPrefixOf_iff_prefix.mpr hbegins⟩
      rw [hfilter] at hfiltered
      exact List.mem_singleton.mp hfiltered
    have hself : (spelling, s) ∈ (spellingsOf known).filter fun entry =>
        front.isPrefixOf entry.1 := by
      rw [hfilter]
      exact List.mem_singleton_self _
    obtain ⟨hspelling, hbegins⟩ := List.mem_filter.mp hself
    exact Or.inl ⟨s, (Except.ok.inj h).symm,
      Or.inr ⟨hdashes, spelling, hspelling, List.isPrefixOf_iff_prefix.mp hbegins, hmem⟩⟩
  · cases h

/-- The text before an equals sign begins like the word. -/
theorem splitValue_cons {c d : Char} {rest front : List Char} {value : Option (List Char)}
    (hc : c ≠ '=') (hd : d ≠ '=') (h : splitValue (c :: d :: rest) = (front, value)) :
    ∃ tail, front = c :: d :: tail := by
  unfold splitValue at h
  simp only [Text.cut?, if_neg hc, if_neg hd] at h
  cases hcut : Text.cut? '=' rest with
  | none =>
    rw [hcut] at h
    exact ⟨rest, (Prod.mk.inj h).1.symm⟩
  | some cut =>
    rw [hcut] at h
    exact ⟨cut.1, (Prod.mk.inj h).1.symm⟩

/-- **The roles of words before the mark**: what is taken as a switch is one, and joined switches
begin with a short one. -/
theorem roleOf_cases {word : List Char} {role : Role} (h : roleOf known word = .ok role) :
    (∃ s value, role = .switch s value ∧ Writes known word s value) ∨
      (∃ s text c, role = .joined s text ∧ (['-', c], s) ∈ spellingsOf known) ∨
      role = .argument ∨ role = .unknown := by
  unfold roleOf at h
  split at h
  · next c rest =>
    cases hsplit : splitValue ('-' :: c :: rest) with
    | mk front value =>
      simp only [hsplit] at h
      split at h
      · next s hlookup =>
        exact Or.inl ⟨s, none, (Except.ok.inj h).symm, Or.inl (mem_of_lookup hlookup)⟩
      · next s _ hlookup =>
        exact Or.inl ⟨s, value, (Except.ok.inj h).symm,
          writes_iff.mpr ⟨front, hsplit, Or.inl (mem_of_lookup hlookup)⟩⟩
      · split at h
        · next hc =>
          obtain ⟨tail, hfront⟩ := splitValue_cons (by decide) (by rw [hc]; decide) hsplit
          rcases longRole_cases hsplit ⟨tail, by rw [hfront, hc]; rfl⟩ h with
            ⟨s, hrole, hnames⟩ | hother
          · exact Or.inl ⟨s, value, hrole, writes_iff.mpr ⟨front, hsplit, hnames⟩⟩
          · exact Or.inr (Or.inr hother)
        · unfold shortRole at h
          split at h
          · next s hlookup =>
            exact Or.inr (Or.inl ⟨s, _, c, (Except.ok.inj h).symm, mem_of_lookup hlookup⟩)
          · split at h
            · exact Or.inr (Or.inr (Or.inl (Except.ok.inj h).symm))
            · exact Or.inr (Or.inr (Or.inr (Except.ok.inj h).symm))
  · exact Or.inr (Or.inr (Or.inl (Except.ok.inj h).symm))

/-- **What is taken as a switch is one.** -/
theorem writes_of_roleOf {word : List Char} {s : Switch} {value : Option (List Char)}
    (h : roleOf known word = .ok (.switch s value)) : Writes known word s value := by
  rcases roleOf_cases h with ⟨s', value', heq, hwrites⟩ | ⟨_, _, _, heq, -⟩ | heq | heq
  · obtain ⟨rfl, rfl⟩ := Role.switch.inj heq
    exact hwrites
  all_goals cases heq

/-- **What is taken as an argument is no switch.** -/
theorem isArgument_of_roleOf {word : List Char} (h : roleOf known word = .ok .argument) :
    IsArgument known word := by
  intro s value hwrites
  obtain ⟨front, hsplit, hnames⟩ := writes_iff.mp hwrites
  obtain ⟨⟨c, tail, hfront⟩, -⟩ := hnames.cases
  obtain ⟨rest, rfl⟩ : ∃ rest, word = '-' :: c :: rest := by
    obtain ⟨back, rfl⟩ := prefix_of_splitValue hsplit
    exact ⟨tail ++ back, by rw [hfront]; rfl⟩
  unfold roleOf at h
  simp only [hsplit] at h
  split at h
  · cases h
  · cases h
  · next _ hnone =>
    rcases hnames with hfull | ⟨⟨rest', hdashes⟩, spelling, hmem, hbegins, -⟩
    · obtain ⟨t, ht⟩ := exists_lookup_of_mem hfull
      rw [hnone] at ht
      cases ht
    · obtain rfl : c = '-' := by
        rw [hfront] at hdashes
        exact (List.cons.inj (List.cons.inj hdashes).2).1.symm
      have hfiltered : (spelling, s) ∈ (spellingsOf known).filter fun entry =>
          front.isPrefixOf entry.1 :=
        List.mem_filter.mpr ⟨hmem, List.isPrefixOf_iff_prefix.mpr hbegins⟩
      rw [if_pos rfl] at h
      unfold longRole at h
      rw [hsplit] at h
      simp only [] at h
      split at h
      · next hnil =>
        rw [hnil] at hfiltered
        cases hfiltered
      · cases h
      · cases h

end Roles

/-! ### Reading the words -/

section Reading

variable {known : List Switch} {expected : Nat}

/-- What every step of reading preserves is preserved by reading. -/
theorem readWords_preserves {P : Reading → Prop}
    (hset : ∀ r s value r', P r → r.set s value = .ok r' → P r')
    (hargument : ∀ r word, P r → P (r.takeArgument expected word))
    (hmark : ∀ r word last, P r → P (r.takeMark expected word last))
    (hrefuse : ∀ r word, P r → P (r.refuse word)) {r r' : Reading} {words : List Word}
    (hr : P r) (h : readWords known expected r words = .ok r') : P r' := by
  have hsetAll : ∀ switches (r r' : Reading), P r → r.setAll switches = .ok r' → P r' := by
    intro switches
    induction switches with
    | nil =>
      intro r r' hr h
      rw [← Except.ok.inj h]
      exact hr
    | cons s rest ih =>
      intro r r' hr h
      rw [Reading.setAll] at h
      split at h
      · cases h
      · next r₁ hfirst => exact ih r₁ r' (hset r s "" r₁ hr hfirst) h
  fun_induction readWords known expected r words with
  | case1 r =>
    rw [← Except.ok.inj h]
    exact hr
  | case2 r word rest ih => exact ih (hargument r word hr) h
  | case3 r word rest ih => exact ih (hmark r word _ hr) h
  | case4 r word rest ih => exact ih (hrefuse r word hr) h
  | case7 r word s text rest switches left _ r₁ hfirst ih =>
    have hr₁ := hsetAll switches r r₁ hr hfirst
    refine ih ?_ h
    cases left with
    | none => exact hr₁
    | some text => exact hrefuse r₁ text hr₁
  | case10 r word s rest _ r₁ hfirst ih => exact ih (hset r s "" r₁ hr hfirst) h
  | case12 r word s v rest _ r₁ hfirst ih => exact ih (hset r s _ r₁ hr hfirst) h
  | case14 r word s v rest _ r₁ hfirst ih => exact ih (hset r s _ r₁ hr hfirst) h
  | _ => cases h

/-- A switch that is set comes after those before it. -/
theorem set_eq_ok {r r' : Reading} {s : Switch} {value : String} (h : r.set s value = .ok r') :
    r' = { r with settings := r.settings ++ [(s, value)], besideArgument := false } := by
  unfold Reading.set at h
  simp only [] at h
  split at h
  · cases h
  · split at h
    · exact (Except.ok.inj h).symm
    · cases h
  · split at h
    · cases h
    · exact (Except.ok.inj h).symm
  · exact (Except.ok.inj h).symm

/-- Words that are not understood are kept. -/
theorem unrecognized_eq_nil {r r' : Reading} {words : List Word}
    (h : readWords known expected r words = .ok r') (hnone : r'.unrecognized = []) :
    r.unrecognized = [] := by
  have hbegins : r.unrecognized <+: r'.unrecognized := by
    apply readWords_preserves (P := fun x => r.unrecognized <+: x.unrecognized) _ _ _ _
      List.prefix_rfl h
    · intro x s value x' hx hset
      rw [set_eq_ok hset]
      exact hx
    · intro x word hx
      unfold Reading.takeArgument
      split
      · exact hx
      · exact hx.trans (List.prefix_append _ _)
    · intro x word last hx
      unfold Reading.takeMark
      split
      · exact hx
      · exact hx.trans (List.prefix_append _ _)
    · intro x word hx
      exact hx.trans (List.prefix_append _ _)
  rw [hnone] at hbegins
  exact List.prefix_nil.mp hbegins

/-- A word that is understood as an argument comes after the arguments before it. -/
theorem takeArgument_eq {r : Reading} {word : String}
    (hnone : (r.takeArgument expected word).unrecognized = []) :
    (r.takeArgument expected word).arguments = r.arguments ++ [word] ∧
      (r.takeArgument expected word).settings = r.settings := by
  unfold Reading.takeArgument at hnone ⊢
  split at hnone
  · next hroom =>
    rw [if_pos hroom]
    exact ⟨rfl, rfl⟩
  · exact absurd hnone (by simp [Reading.refuse])

/-- Words that are all arguments are taken as they are. -/
theorem readWords_arguments {r r' : Reading} {rest : List String}
    (h : readWords known expected r (rest.map fun w => ⟨w, .argument⟩) = .ok r')
    (hnone : r'.unrecognized = []) :
    r'.arguments = r.arguments ++ rest ∧ r'.settings = r.settings := by
  induction rest generalizing r with
  | nil =>
    rw [← Except.ok.inj h, List.append_nil]
    exact ⟨rfl, rfl⟩
  | cons word rest ih =>
    rw [List.map_cons, readWords] at h
    obtain ⟨harguments, hsettings⟩ := takeArgument_eq (unrecognized_eq_nil h hnone)
    obtain ⟨hrest, hsettings'⟩ := ih h
    rw [hrest, hsettings', harguments, hsettings, List.append_assoc]
    exact ⟨rfl, rfl⟩

theorem arguments_takeMark (r : Reading) (word : String) (last : Bool) :
    (r.takeMark expected word last).arguments = r.arguments := by
  unfold Reading.takeMark
  split <;> rfl

theorem settings_takeMark (r : Reading) (word : String) (last : Bool) :
    (r.takeMark expected word last).settings = r.settings := by
  unfold Reading.takeMark
  split <;> rfl

theorem classify_eq_nil {words : List String} (h : classify known words = .ok []) : words = [] := by
  cases words with
  | nil => rfl
  | cons word rest =>
    rw [classify] at h
    split at h
    · cases h
    · split at h
      · cases h
      · obtain ⟨ws, -, heq⟩ := map_eq_ok h
        cases heq

/-- No more arguments are taken than are expected. -/
theorem length_arguments_readWords {r r' : Reading} {ws : List Word}
    (h : readWords known expected r ws = .ok r') (hr : r.arguments.length ≤ expected) :
    r'.arguments.length ≤ expected := by
  apply readWords_preserves (P := fun x => x.arguments.length ≤ expected) _ _ _ _ hr h
  · intro x s value x' hx hset
    rw [set_eq_ok hset]
    exact hx
  · intro x word hx
    unfold Reading.takeArgument
    split
    · next hroom =>
      have hlt : x.arguments.length < expected := of_decide_eq_true hroom
      rw [List.length_append, List.length_singleton]
      omega
    · exact hx
  · intro x word last hx
    rw [arguments_takeMark]
    exact hx
  · intro x word hx
    exact hx

/-- The texts of words are the words. -/
theorem map_text_classify {words : List String} {ws : List Word}
    (h : classify known words = .ok ws) : ws.map Word.text = words := by
  induction words generalizing ws with
  | nil =>
    rw [← Except.ok.inj h]
    rfl
  | cons word rest ih =>
    rw [classify] at h
    split at h
    · rw [← Except.ok.inj h, List.map_cons, List.map_map]
      exact congrArg _ (List.map_id _)
    · split at h
      · cases h
      · obtain ⟨ws', hrest, rfl⟩ := map_eq_ok h
        rw [List.map_cons, ih hrest]

/-- A word that is taken as an argument wherever it stands. -/
theorem role_of_mem_classify {words : List String} {ws : List Word}
    (h : classify known words = .ok ws) {w : Word} (hw : w ∈ ws) (hmark : w.text ≠ "--") :
    w.role = .argument ∨ roleOf known w.text.toList = .ok w.role := by
  induction words generalizing ws with
  | nil =>
    rw [← Except.ok.inj h] at hw
    cases hw
  | cons word rest ih =>
    rw [classify] at h
    split at h
    · next hword =>
      rw [← Except.ok.inj h] at hw
      rcases List.mem_cons.mp hw with rfl | hw
      · exact absurd hword hmark
      · obtain ⟨other, -, rfl⟩ := List.mem_map.mp hw
        exact Or.inl rfl
    · split at h
      · cases h
      · next role hrole =>
        obtain ⟨ws', hrest, rfl⟩ := map_eq_ok h
        rcases List.mem_cons.mp hw with rfl | hw
        · exact Or.inr hrole
        · exact ih hrest hw

/-- What a word is, and the words after it. -/
theorem classify_eq_cons {words : List String} {w : Word} {ws : List Word}
    (h : classify known words = .ok (w :: ws)) :
    ∃ rest, words = w.text :: rest ∧
      (w.text = "--" ∧ w.role = .mark ∧ ws = rest.map (fun w => ⟨w, .argument⟩) ∨
        roleOf known w.text.toList = .ok w.role ∧ classify known rest = .ok ws) := by
  cases words with
  | nil => cases h
  | cons word rest =>
    rw [classify] at h
    split at h
    · next hmark =>
      obtain ⟨rfl, rfl⟩ := List.cons.inj (Except.ok.inj h)
      exact ⟨rest, rfl, Or.inl ⟨hmark, rfl, rfl⟩⟩
    · split at h
      · cases h
      · next role hrole =>
        obtain ⟨ws', hclassify, heq⟩ := map_eq_ok h
        obtain ⟨rfl, rfl⟩ := List.cons.inj heq
        exact ⟨rest, rfl, Or.inr ⟨hrole, hclassify⟩⟩

/-- No word before the mark has the role of the mark. -/
theorem roleOf_ne_mark {word : List Char} : roleOf known word ≠ .ok .mark := by
  intro h
  rcases roleOf_cases h with ⟨_, _, heq, -⟩ | ⟨_, _, _, heq, -⟩ | heq | heq <;> cases heq

/-- A short switch with text right after it is how a switch is written. -/
theorem exists_mem_of_joined {word text : List Char} {s : Switch}
    (h : roleOf known word = .ok (.joined s text)) : ∃ c, (['-', c], s) ∈ spellingsOf known := by
  rcases roleOf_cases h with ⟨_, _, heq, -⟩ | ⟨s', text', c, heq, hmem⟩ | heq | heq
  · cases heq
  · obtain ⟨rfl, -⟩ := Role.joined.inj heq
    exact ⟨c, hmem⟩
  · cases heq
  · cases heq

/-- The first of joined switches is the one that the word begins with. -/
theorem exists_expandJoined {s : Switch} {text : List Char} {switches : List Switch}
    {left : Option String} (h : expandJoined known s text = .ok (switches, left)) :
    ∃ rest, switches = s :: rest := by
  unfold expandJoined at h
  split at h
  · cases h
  · split at h
    · cases h
    · split at h
      · exact ⟨[], (Prod.mk.inj (Except.ok.inj h)).1.symm⟩
      · exact ⟨_, (Prod.mk.inj (Except.ok.inj h)).1.symm⟩
      · cases h
      · obtain ⟨⟨more, left'⟩, -, heq⟩ := map_eq_ok h
        exact ⟨more, (Prod.mk.inj heq).1.symm⟩

/-- **What is read of the words of a command is what they say.**  No short switch is known but the
one for help. -/
theorem exists_says (hshort : ∀ c s, (['-', c], s) ∈ spellingsOf known → s = .help)
    {words : List String} {ws : List Word} (hclassify : classify known words = .ok ws)
    {r r' : Reading} (h : readWords known expected r ws = .ok r') (hnone : r'.unrecognized = []) :
    ∃ settings arguments, Says known words settings arguments ∧
      r'.settings = r.settings ++ settings ∧ r'.arguments = r.arguments ++ arguments := by
  -- The cases of the reader that go on, each a rule of the grammar; the others fail, or keep a
  -- word that is not understood.
  fun_induction readWords known expected r ws generalizing words with
  | case1 r =>
    rw [classify_eq_nil hclassify, ← Except.ok.inj h]
    exact ⟨[], [], .nil, (List.append_nil _).symm, (List.append_nil _).symm⟩
  | case2 r word rest ih =>
    obtain ⟨rest', rfl, ⟨-, hmark, -⟩ | ⟨hrole, hrest⟩⟩ := classify_eq_cons hclassify
    · cases hmark
    · obtain ⟨settings, arguments, hsays, hsettings, harguments⟩ := ih hrest h
      obtain ⟨htaken, hkept⟩ := takeArgument_eq (unrecognized_eq_nil h hnone)
      refine ⟨settings, word :: arguments, .argument (isArgument_of_roleOf hrole) hsays, ?_, ?_⟩
      · rw [hsettings, hkept]
      · rw [harguments, htaken, List.append_assoc]
        rfl
  | case3 r word rest ih =>
    obtain ⟨rest', rfl, ⟨hword, -, rfl⟩ | ⟨hrole, -⟩⟩ := classify_eq_cons hclassify
    · obtain rfl : word = "--" := hword
      obtain ⟨harguments, hsettings⟩ := readWords_arguments h hnone
      refine ⟨[], rest', .mark rest', ?_, ?_⟩
      · rw [hsettings, settings_takeMark, List.append_nil]
      · rw [harguments, arguments_takeMark]
    · exact absurd hrole roleOf_ne_mark
  | case4 r word rest ih =>
    exact absurd (unrecognized_eq_nil h hnone) (by simp [Reading.refuse])
  | case7 r word s text rest switches left hexpand r₁ hfirst ih =>
    obtain ⟨rest', rfl, ⟨-, hmark, -⟩ | ⟨hrole, -⟩⟩ := classify_eq_cons hclassify
    · cases hmark
    · -- Joined switches begin with the one for help, which ends the reading.
      obtain ⟨c, hmem⟩ := exists_mem_of_joined hrole
      obtain rfl := hshort c s hmem
      obtain ⟨more, rfl⟩ := exists_expandJoined hexpand
      cases hfirst
  | case10 r word s rest htakes r₁ hfirst ih =>
    obtain ⟨rest', rfl, ⟨-, hmark, -⟩ | ⟨hrole, hrest⟩⟩ := classify_eq_cons hclassify
    · cases hmark
    · obtain ⟨settings, arguments, hsays, hsettings, harguments⟩ := ih hrest h
      rw [set_eq_ok hfirst] at hsettings harguments
      refine ⟨(s, "") :: settings, arguments, .plain htakes (writes_of_roleOf hrole) hsays, ?_,
        harguments⟩
      rw [hsettings, List.append_assoc]
      rfl
  | case12 r word s v rest htakes r₁ hfirst ih =>
    obtain ⟨rest', rfl, ⟨-, hmark, -⟩ | ⟨hrole, hrest⟩⟩ := classify_eq_cons hclassify
    · cases hmark
    · obtain ⟨settings, arguments, hsays, hsettings, harguments⟩ := ih hrest h
      rw [set_eq_ok hfirst] at hsettings harguments
      have hword := writes_of_roleOf hrole
      refine ⟨(s, String.ofList v) :: settings, arguments, .joined htakes ?_ hsays, ?_, harguments⟩
      · rw [String.toList_ofList]
        exact hword
      · rw [hsettings, List.append_assoc]
        rfl
  | case14 r word s v rest htakes r₁ hfirst ih =>
    obtain ⟨rest', rfl, ⟨-, hmark, -⟩ | ⟨hrole, hnext⟩⟩ := classify_eq_cons hclassify
    · cases hmark
    · obtain ⟨rest'', rfl, ⟨-, hmark, -⟩ | ⟨hvalue, hrest⟩⟩ := classify_eq_cons hnext
      · cases hmark
      · obtain ⟨settings, arguments, hsays, hsettings, harguments⟩ := ih hrest h
        rw [set_eq_ok hfirst] at hsettings harguments
        refine ⟨(s, v) :: settings, arguments, .separate htakes (writes_of_roleOf hrole)
          (isArgument_of_roleOf hvalue) hsays, ?_, harguments⟩
        rw [hsettings, List.append_assoc]
        rfl
  | _ => cases h

end Reading

/-! ### Settings that go together -/

/-- A switch is among settings. -/
def Given (settings : List (Switch × String)) (s : Switch) : Prop :=
  ∃ value, (s, value) ∈ settings

instance (settings : List (Switch × String)) (s : Switch) : Decidable (Given settings s) :=
  decidable_of_iff (settings.any fun setting => setting.1 == s) (by simp [Given])

/-- Settings that go together: ports are integers, and a switch does not stand beside one that it
excludes. -/
structure Reading.IsSound (r : Reading) : Prop where
  port : ∀ value, (.port, value) ∈ r.settings → ∃ i, Text.readInteger value.toList = .ok i
  secure : ¬(Given r.settings .secure ∧ Given r.settings .insecure)

section Sound

variable {known : List Switch} {expected : Nat}

theorem Reading.has_iff {r : Reading} {s : Switch} : r.has s = true ↔ Given r.settings s := by
  simp [Reading.has, Given]

/-- A port that is set is an integer. -/
theorem exists_readInteger_of_set {r r' : Reading} {value : String}
    (h : r.set .port value = .ok r') : ∃ i, Text.readInteger value.toList = .ok i := by
  unfold Reading.set at h
  simp only [] at h
  split at h
  · next i hi => exact ⟨i, hi⟩
  · cases h

/-- A switch is not set beside one that it excludes. -/
theorem not_given_of_set {r r' : Reading} {s other : Switch} {value : String}
    (hexcluded : s.excluded? = some other) (h : r.set s value = .ok r') :
    ¬Given r.settings other := by
  rw [← Reading.has_iff]
  intro hhas
  cases s with
  | secure =>
    obtain rfl := Option.some.inj hexcluded
    simp [Reading.set, Switch.excluded?, hhas] at h
  | insecure =>
    obtain rfl := Option.some.inj hexcluded
    simp [Reading.set, Switch.excluded?, hhas] at h
  | _ => cases hexcluded

theorem Reading.isSound_set {r r' : Reading} {s : Switch} {value : String} (hr : r.IsSound)
    (h : r.set s value = .ok r') : r'.IsSound := by
  have hgiven : ∀ t, Given r'.settings t → Given r.settings t ∨ t = s := by
    rintro t ⟨v, hmem⟩
    rw [set_eq_ok h] at hmem
    rcases List.mem_append.mp hmem with hold | hnew
    · exact Or.inl ⟨v, hold⟩
    · exact Or.inr (Prod.mk.inj (List.mem_singleton.mp hnew)).1
  refine ⟨?_, ?_⟩
  · intro v hmem
    rw [set_eq_ok h] at hmem
    rcases List.mem_append.mp hmem with hold | hnew
    · exact hr.port v hold
    · obtain ⟨rfl, rfl⟩ := Prod.mk.inj (List.mem_singleton.mp hnew)
      exact exists_readInteger_of_set h
  · rintro ⟨hsecure, hinsecure⟩
    rcases hgiven _ hsecure with hold | rfl
    · rcases hgiven _ hinsecure with hold' | rfl
      · exact hr.secure ⟨hold, hold'⟩
      · exact not_given_of_set rfl h hold
    · rcases hgiven _ hinsecure with hold' | heq
      · exact not_given_of_set rfl h hold'
      · cases heq

/-- **Settings that are read go together.** -/
theorem isSound_readWords {r r' : Reading} {ws : List Word} (hr : r.IsSound)
    (h : readWords known expected r ws = .ok r') : r'.IsSound := by
  apply readWords_preserves (P := Reading.IsSound) _ _ _ _ hr h
  · intro r s value r' hr h
    exact Reading.isSound_set hr h
  · intro r word hr
    unfold Reading.takeArgument
    split
    · exact ⟨hr.port, hr.secure⟩
    · exact ⟨hr.port, hr.secure⟩
  · intro r word last hr
    unfold Reading.takeMark
    split
    · exact ⟨hr.port, hr.secure⟩
    · exact ⟨hr.port, hr.secure⟩
  · intro r word hr
    exact ⟨hr.port, hr.secure⟩

end Sound

end RouteMatch.CommandLine
