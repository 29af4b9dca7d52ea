import StepFlow.Proofs.Diagram.Chain
/-!
# Labels that swallow nodes

The first arrow of a chain is the one that its line is meant to say, and mostly does. But the label
of the source may also be read up to a later closing bracket of its kind, and if the arrow behind
that one has a form that is tried earlier, this reading counts: all between the brackets becomes the
label. `Reaches` tells which arrows readings of the line come to, and `exists_reading` that the line
says the one of them whose form is tried first. So the first arrow is read, with both its nodes as
they are written, exactly if no later arrow that is reached has an earlier form (`read_chain`).
-/

namespace StepFlow.Diagram

open Text Written

variable {arrow : List Char} {l : Link} {back : List Link} {p : Endpoint × List Char}
variable {b : Bracket} {f : Blanks × Framed} {c : Chain} {form : Arrow × Bool} {st : Statement}

namespace Written

/-! ## Chains -/

/-- A node and the arrows behind it, at least two. -/
structure Chain where
  /-- The node in front. -/
  source : Stop
  /-- The first arrow and its node. -/
  first : Link
  /-- The second arrow and its node. -/
  second : Link
  /-- The others. -/
  more : List Link

namespace Chain

/-- The arrows in order. -/
def links (c : Chain) : List Link :=
  c.first :: c.second :: c.more

/-- The chain as it is written. -/
def text (c : Chain) : List Char :=
  c.source.text ++ linksText c.links

/-- **What a chain is meant to draw:** its first arrow with its label, and of the nodes at its two
ends those that have a label of their own. -/
def drawing (c : Chain) : Diagram where
  nodes := firstNodes (definedNodes none
    (c.source.endpoint.definition?.toList ++ c.first.target.endpoint.definition?.toList))
  edges := [⟨String.ofList c.source.id.text, String.ofList c.first.target.id.text,
    Progress.arrowLabel (c.first.label?.map (·.2.text))⟩]

end Chain

/-- The last character of a frame. -/
def Frame.closer : Frame → Char
  | circle => ')'
  | rhombus => '}'
  | _ => ']'

/-- **The arrows that a reading of a chain can come to,** each with the links behind it: the first
one, and those behind a node whose frame ends like that of the source. -/
inductive Chain.Reaches (c : Chain) : Link → List Link → Prop where
  /-- The label of the source ends where its frame does. -/
  | first : c.Reaches c.first (c.second :: c.more)
  /-- The label of the source goes on to the end of a later frame. -/
  | later {front : List Link} {k l : Link} {back : List Link} {f g : Blanks × Framed} :
    c.links = front ++ k :: l :: back → c.source.framed? = some f → k.target.framed? = some g →
    f.2.frame.closer = g.2.frame.closer → c.Reaches l back

/-- **The label of the source swallows other nodes:** a reading comes to an arrow of a form that is
tried before the form of the first arrow. -/
def Chain.IsSwallowed (c : Chain) : Prop :=
  ∃ l back, c.Reaches l back ∧ l.rank < c.first.rank

end Written

/-! ## The readings of a chain -/

/-- What stands behind the source where a reading comes to an arrow. -/
def behindSource (l : Link) (back : List Link) : List Char :=
  l.arrow.text ++ (l.behind ++ linksText back)

/-- **A node with a frame as a source:** with each body that can be read, or with none. -/
theorem sources_of_framed {s : Stop} (hf : s.framed? = some f) (tail : List Char) :
    sources (s.text ++ tail) =
      (bodies (f.2.text ++ tail)).map (fun p => (⟨s.id.text, some p.1⟩, trimStart p.2)) ++
        [(⟨s.id.text, none⟩, f.2.text ++ tail)] := by
  simp [sources, Stop.readId?_of_framed hf]

/-- Without a frame there is one reading only. -/
theorem sources_chain_of_not_framed (hf : c.source.framed? = none) :
    sources c.text = [(c.source.endpoint, behindSource c.first (c.second :: c.more))] := by
  have hbehind := trimStart_linksText_cons c.first (c.second :: c.more)
  have hid := Stop.readId?_of_not_framed hf (head?_linksText c.links)
  have hbodies := bodies_linksText c.links
  rw [Chain.links, hbehind] at hid hbodies
  simp [Chain.text, Chain.links, sources, hid, hbodies, Stop.endpoint, hf, behindSource]

/-- **The first reading of a chain** is what is written. -/
theorem exists_sources_chain (c : Chain) : ∃ others,
    sources c.text = (c.source.endpoint, behindSource c.first (c.second :: c.more)) :: others := by
  cases hf : c.source.framed? with
  | none => exact ⟨[], sources_chain_of_not_framed hf⟩
  | some f =>
    obtain ⟨others, hbodies⟩ := exists_bodies_eq_cons f.2 (linksText c.links)
    have hpoint : c.source.endpoint = ⟨c.source.id.text, some f.2.body⟩ := by
      rw [Stop.endpoint, hf, Option.map_some]
    rw [Chain.text, sources_of_framed hf, hbodies, List.map_cons, List.cons_append, hpoint,
      behindSource, ← trimStart_linksText_cons]
    exact ⟨_, rfl⟩

/-- What brackets open with tells how their frames close. -/
theorem closer_of_head? {f : Frame} (hb : b ∈ brackets) (h : b.opening.head? = f.opening.head?) :
    b.closing.getLast? = some f.closer := by
  revert b
  cases f <;> decide

/-- **A later closing bracket** of its kind can end the label of a frame. -/
theorem exists_bracket {f g : Frame} (h : f.closer = g.closer) :
    ∃ b ∈ brackets, b.opening <+: f.opening ∧ b.closing <:+ g.closing := by
  revert h
  cases f <;> cases g <;> simp [Frame.closer, brackets, Frame.opening, Frame.closing]

/-- To every arrow that is reached there is a reading. -/
theorem exists_mem_sources (h : c.Reaches l back) :
    ∃ e, (e, behindSource l back) ∈ sources c.text := by
  cases h with
  | first =>
    obtain ⟨others, hothers⟩ := exists_sources_chain c
    exact ⟨c.source.endpoint, hothers ▸ List.mem_cons_self⟩
  | later hlinks hf hg hcloser =>
    rename_i front k f g
    obtain ⟨b, hb, ⟨opening, hopening⟩, ⟨closing, hclosing⟩⟩ := exists_bracket hcloser
    obtain ⟨lead, -, hlead⟩ := k.exists_text_eq
    rw [hg, Option.map_some, Option.getD_some] at hlead
    -- all from behind the opening bracket up to the closing one is the label
    have hbody : (⟨b.shape, opening ++ (f.2.label.text ++ f.2.frame.closing) ++
        (linksText front ++ lead ++ (g.2.frame.opening ++ g.2.label.text) ++ closing)⟩,
        linksText (l :: back)) ∈ bodies (f.2.text ++ linksText c.links) := by
      refine mem_bodies_iff.mpr ⟨b, hb, rfl, ?_⟩
      simp only [Framed.text] at hlead
      simp only [hlinks, linksText, List.flatMap_append, List.flatMap_cons, hlead, Framed.text,
        ← hopening, ← hclosing, List.append_assoc]
    rw [Chain.text, sources_of_framed hf, behindSource, ← trimStart_linksText_cons]
    exact ⟨_, List.mem_append_left _ (List.mem_map.mpr ⟨_, hbody, rfl⟩)⟩

/-- The brackets of a body open like the frame that it is read from. -/
theorem head?_opening_eq {f : Framed} {tail more : List Char} (hb : b ∈ brackets)
    (h : f.text ++ tail = b.opening ++ more) : b.opening.head? = f.frame.opening.head? := by
  have hne : ∀ b ∈ brackets, b.opening ≠ [] := by decide
  have hframe : f.frame.opening ≠ [] := by
    cases f.frame <;> simp [Frame.opening]
  have hhead := congrArg List.head? h
  rw [Framed.text, List.append_assoc, List.head?_append_of_ne_nil _ hframe,
    List.head?_append_of_ne_nil _ (hne b hb)] at hhead
  exact hhead.symm

/-- **A label that is read beyond its frame** holds a closing bracket. -/
theorem exists_closer_mem_label {f : Framed} {label beyond : List Char} (hb : b ∈ brackets)
    (h : f.text ++ beyond = b.opening ++ (label ++ b.closing)) (hlen : 2 ≤ beyond.length) :
    ∃ x ∈ closers, x ∈ label := by
  have htable : ∀ b ∈ brackets, b.closing.length ≤ 2 ∧ b.opening.all (· ∉ closers) = true := by
    decide
  obtain ⟨hclosing, hopening⟩ := htable b hb
  obtain ⟨inner, x, hx, htext⟩ : ∃ inner x, x ∈ closers ∧ f.text = inner ++ [x] := by
    have hcloser : f.frame.closing ≠ [] := by cases f.frame <;> simp [Frame.closing]
    obtain ⟨front, x, hlast⟩ := (List.eq_nil_or_concat' _).resolve_left hcloser
    refine ⟨f.frame.opening ++ (f.label.text ++ front), x, ?_, by simp [Framed.text, hlast]⟩
    exact f.frame.mem_closers x (hlast ▸ by simp)
  have hopens : x ∉ b.opening := fun hmem => by
    simpa [hx] using List.all_eq_true.mp hopening x hmem
  refine ⟨x, hx, ?_⟩
  rcases List.append_eq_append_iff.mp h with ⟨more, hmore, -⟩ | ⟨more, hmore, hrest⟩
  · -- the opening bracket would hold the closing one
    refine absurd ?_ hopens
    rw [hmore, htext]
    simp
  · have hmem : x ∈ more := by
      have hlast : (b.opening ++ more).getLast? = some x := by
        rw [← hmore, htext, List.getLast?_concat]
      rcases List.eq_nil_or_concat' more with rfl | ⟨front, y, rfl⟩
      · rw [List.append_nil] at hlast
        exact absurd (List.mem_of_mem_getLast? hlast) hopens
      · rw [← List.append_assoc, List.getLast?_concat] at hlast
        simp [Option.some.inj hlast]
    -- what closes the label stands beyond the frame
    have hlength := congrArg List.length hrest
    rw [List.length_append, List.length_append] at hlength
    have hpre : more <+: label := List.prefix_of_prefix_length_le ⟨beyond, hrest.symm⟩
      (List.prefix_append label b.closing) (by omega)
    exact hpre.subset hmem

theorem Written.Framed.getLast?_text (f : Framed) : f.text.getLast? = some f.frame.closer := by
  have hclosing : f.frame.closing.getLast? = some f.frame.closer := by
    cases f.frame <;> rfl
  rw [Framed.text, List.getLast?_append, List.getLast?_append, hclosing, Option.some_or,
    Option.some_or]

/-- **A label that ends where the frame of a later node does:** both frames end alike, and the label
holds a closing bracket. -/
theorem closer_eq_of_read_beyond {f : Framed} {g : Blanks × Framed} {front : List Link} {k : Link}
    {label tail : List Char} (hb : b ∈ brackets)
    (h : f.text ++ (linksText (front ++ [k]) ++ tail) = b.opening ++ (label ++ (b.closing ++ tail)))
    (hg : k.target.framed? = some g) :
    f.frame.closer = g.2.frame.closer ∧ ∃ x ∈ closers, x ∈ label := by
  have hlabel : f.text ++ linksText (front ++ [k]) = b.opening ++ (label ++ b.closing) := by
    have hwhole : f.text ++ linksText (front ++ [k]) ++ tail =
        b.opening ++ (label ++ b.closing) ++ tail := by
      simpa using h
    exact List.append_cancel_right hwhole
  obtain ⟨lead, -, hk⟩ := k.exists_text_eq
  rw [hg, Option.map_some, Option.getD_some] at hk
  constructor
  · have hlast := congrArg List.getLast? hlabel
    have hclosing := closer_of_head? hb (head?_opening_eq hb h)
    simp only [linksText, List.flatMap_append, List.flatMap_cons, List.flatMap_nil, hk,
      List.getLast?_append, g.2.getLast?_text, hclosing, Option.some_or, List.append_nil,
      Option.some.injEq] at hlast
    exact hlast.symm
  · -- the arrow alone is longer than a single bracket
    have harrow : 2 ≤ k.arrow.text.length := by cases k.arrow <;> decide
    refine exists_closer_mem_label hb hlabel ?_
    simp only [linksText, List.flatMap_append, List.flatMap_cons, List.flatMap_nil,
      List.length_append, Link.text]
    omega

/-- **To every reading that comes to an arrow** there is an arrow that is reached: the first one, or
a later one, and then the label holds a closing bracket. -/
theorem of_mem_sources (hp : p ∈ sources c.text) (ha : arrow ∈ arrows) (hpre : arrow <+: p.2) :
    p.2 = behindSource c.first (c.second :: c.more) ∨
      ∃ l back, c.Reaches l back ∧ p.2 = behindSource l back ∧
        ∃ body, p.1 = ⟨c.source.id.text, some body⟩ ∧ ∃ x ∈ closers, x ∈ body.label := by
  cases hf : c.source.framed? with
  | none =>
    rw [sources_chain_of_not_framed hf, List.mem_singleton] at hp
    exact .inl (hp ▸ rfl)
  | some f =>
    rw [Chain.text, sources_of_framed hf] at hp
    rcases List.mem_append.mp hp with hp | hp
    · obtain ⟨⟨body, rest⟩, hbody, rfl⟩ := List.mem_map.mp hp
      rcases eq_or_exists_closer hbody ha hpre with rfl | ⟨before, x, hx, htail⟩
      · exact .inl (trimStart_linksText_cons _ _)
      · -- the label ends where the frame of a later node does
        obtain ⟨front, k, l, back, hlinks, rfl, g, hg⟩ := exists_links_eq htail hx ha hpre
        obtain ⟨b, hb, -, heq⟩ := mem_bodies_iff.mp hbody
        have hbeyond : f.2.text ++ (linksText (front ++ [k]) ++ linksText (l :: back)) =
            b.opening ++ (body.label ++ (b.closing ++ linksText (l :: back))) := by
          rw [hlinks] at heq
          simpa [linksText] using heq
        obtain ⟨hcloser, hlabel⟩ := closer_eq_of_read_beyond hb hbeyond hg
        exact .inr ⟨l, back, .later hlinks hf hg hcloser, trimStart_linksText_cons l back, body,
          rfl, hlabel⟩
    · -- without its frame the id is followed by the opening bracket
      obtain rfl := List.mem_singleton.mp hp
      have hopening := fun d hd => (f.2.head?_text (linksText c.links) d hd).2.2
      exact absurd hpre (not_arrow_isPrefix_of_head? hopening arrow ha)

/-! ## The arrow of a chain -/

/-- **An arrow is read** only where it is reached, and in its own form. The label of the source has
then swallowed something if the form is not that of the first arrow. -/
theorem of_readForm (hp : p ∈ sources c.text) (h : readForm form p = some st) :
    ∃ l back, c.Reaches l back ∧ l.form = form ∧ st = l.statement p.1 ∧
      (form ≠ c.first.form →
        ∃ body, p.1 = ⟨c.source.id.text, some body⟩ ∧ ∃ x ∈ closers, x ∈ body.label) := by
  have hpre : form.1.text <+: p.2 := by
    by_contra hpre
    have hafter := after?_eq_none_iff.mpr hpre
    simp [readForm, readLabelled?, readPlain?, hafter] at h
  have hown {l : Link} {back : List Link} (hbehind : p.2 = behindSource l back) :
      l.form = form ∧ st = l.statement p.1 := by
    have hread : readForm form (p.1, behindSource l back) = some st := hbehind ▸ h
    rw [behindSource, readForm_link] at hread
    split at hread
    · exact ⟨by rw [‹form = l.form›], (Option.some.inj hread).symm⟩
    · cases hread
  rcases of_mem_sources hp form.1.text_mem_arrows hpre with hbehind | ⟨l, back, hl, hbehind, hbody⟩
  · obtain ⟨hform, hst⟩ := hown hbehind
    exact ⟨c.first, _, .first, hform, hst, fun hne => absurd hform.symm hne⟩
  · obtain ⟨hform, hst⟩ := hown hbehind
    exact ⟨l, back, hl, hform, hst, fun _ => hbody⟩

/-- Every arrow that is reached can be read. -/
theorem isSome_findSome?_readForm (h : c.Reaches l back) :
    ((sources c.text).findSome? (readForm l.form)).isSome = true := by
  obtain ⟨e, he⟩ := exists_mem_sources h
  rw [List.findSome?_isSome_iff]
  refine ⟨_, he, ?_⟩
  rw [behindSource, readForm_link, if_pos rfl, Option.isSome_some]

/-- In the form of the first arrow the first reading counts. -/
theorem findSome?_readForm_first (c : Chain) :
    (sources c.text).findSome? (readForm c.first.form) =
      some (c.first.statement c.source.endpoint) := by
  obtain ⟨others, hothers⟩ := exists_sources_chain c
  rw [hothers, List.findSome?_cons, behindSource, readForm_link, if_pos rfl]

/-- What is found first is found for the first element for which something is found. -/
theorem exists_idxOf_le_of_findSome? {α β : Type} [BEq α] [LawfulBEq α] {xs : List α}
    {f : α → Option β} {y : β} (h : xs.findSome? f = some y) :
    ∃ x, f x = some y ∧ ∀ x', (f x').isSome = true → xs.idxOf x ≤ xs.idxOf x' := by
  obtain ⟨earlier, x, later, rfl, hx, hearlier⟩ := List.findSome?_eq_some_iff.mp h
  have hnew {x' : α} (hsome : (f x').isSome = true) : x' ∉ earlier := by
    intro hmem
    rw [hearlier x' hmem] at hsome
    cases hsome
  refine ⟨x, hx, fun x' hsome => ?_⟩
  have hfirst : x ∉ earlier := hnew (by rw [hx, Option.isSome_some])
  rw [List.idxOf_append_of_notMem hfirst, List.idxOf_append_of_notMem (hnew hsome),
    List.idxOf_cons_self]
  omega

/-- The form of the arrow that is read comes before those of all arrows that are reached. -/
theorem exists_form_of_chain (c : Chain) :
    ∃ form st, readEdge? c.text = some st ∧ (sources c.text).findSome? (readForm form) = some st ∧
      ∀ l back, c.Reaches l back → forms.idxOf form ≤ l.rank := by
  have hsome : (readEdge? c.text).isSome = true := by
    rw [readEdge?_eq_findSome?, List.findSome?_isSome_iff]
    exact ⟨c.first.form, mem_forms _, by rw [findSome?_readForm_first, Option.isSome_some]⟩
  obtain ⟨st, hst⟩ := Option.isSome_iff_exists.mp hsome
  rw [readEdge?_eq_findSome?] at hst
  obtain ⟨form, hform, hleast⟩ := exists_idxOf_le_of_findSome? hst
  exact ⟨form, st, by rw [readEdge?_eq_findSome?, hst], hform,
    fun l back hl => hleast l.form (isSome_findSome?_readForm hl)⟩

/-- **The first arrow of a chain is read as it is written** if no arrow that is reached has an
earlier form. -/
theorem readEdge?_chain (h : ¬ c.IsSwallowed) :
    readEdge? c.text = some (c.first.statement c.source.endpoint) := by
  obtain ⟨form, st, hread, hform, hleast⟩ := exists_form_of_chain c
  obtain ⟨p, hp, hst⟩ := List.exists_of_findSome?_eq_some hform
  obtain ⟨l, back, hl, rfl, -, -⟩ := of_readForm hp hst
  have hle : l.rank ≤ c.first.rank := hleast c.first _ .first
  have hge : c.first.rank ≤ l.rank := Nat.le_of_not_lt fun hlt => h ⟨l, back, hl, hlt⟩
  have hsame : l.form = c.first.form :=
    (List.idxOf_inj (mem_forms l.form)).mp (Nat.le_antisymm hle hge)
  rw [hread, ← hform, hsame, findSome?_readForm_first]

/-- **And a later one if one has:** the first of those that are reached in the order of the forms,
and the label of the source goes on to it. -/
theorem readEdge?_chain_of_isSwallowed (h : c.IsSwallowed) :
    ∃ l back body, c.Reaches l back ∧ l.rank < c.first.rank ∧
      readEdge? c.text = some (l.statement ⟨c.source.id.text, some body⟩) ∧
      ∃ x ∈ closers, x ∈ body.label := by
  obtain ⟨form, st, hread, hform, hleast⟩ := exists_form_of_chain c
  obtain ⟨p, hp, hst⟩ := List.exists_of_findSome?_eq_some hform
  obtain ⟨l, back, hl, rfl, rfl, hbody⟩ := of_readForm hp hst
  obtain ⟨l', back', hl', hlt⟩ := h
  have hrank : l.rank < c.first.rank := (hleast l' back' hl').trans_lt hlt
  obtain ⟨body, hsource, hcloser⟩ := hbody fun hsame => by
    rw [Link.rank, Link.rank, hsame] at hrank
    exact hrank.false
  exact ⟨l, back, body, hl, hrank, hsource ▸ hread, hcloser⟩

end StepFlow.Diagram
