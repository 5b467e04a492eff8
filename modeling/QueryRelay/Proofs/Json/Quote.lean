import QueryRelay.Json.Read
import QueryRelay.Json.Write

/-!
# Reading back a written string

A string is written between quotes with `"`, `\` and the control characters escaped
(`Json.quote`), and the reader takes a string literal apart one escape at a time
(`Json.readStringBody`). This file shows that the reader inverts the writer on every string:
reading the body of `quote s` followed by any text gives back `s` and stops right after the
closing quote, with the text that follows untouched (`readStringBody_quoted`).

So a written string is *self-delimiting*: no escaped body contains an unescaped quote, and no
escape is a prefix of another. Two texts that both start with a written string agree only if
the strings agree and so does what follows them (`quote_append_cancel`). This is what makes a
text built by writing strings one after another, such as a cache key's material, determine
the strings it was built from.

The proof follows the writer: one lemma per way the reader takes a step (the closing quote, a
plain character, a one-letter escape, a `\u` escape), one case per branch of `escapeChar`, and
an induction over the characters of the string.
-/

namespace QueryRelay

namespace Json

variable {c c' c₂ : Cursor} {acc : List Char} {ch e x u : Char} {r : List Char}

/-! ## The reader's steps -/

theorem readStringBody_of_quote (h : c.rest = '"' :: r) :
    readStringBody c acc = .ok (String.ofList acc.reverse, c.advance) := by
  rw [readStringBody]
  split
  · rename_i h'
    simp [h] at h'
  · rename_i ch' tail h'
    rw [h] at h'
    cases h'
    rfl

theorem readStringBody_of_plain (h : c.rest = ch :: r) (hq : ch ≠ '"') (hb : ch ≠ '\\')
    (hc : 0x20 ≤ ch.toNat) : readStringBody c acc = readStringBody c.advance (ch :: acc) := by
  rw [readStringBody]
  split
  · rename_i h'
    simp [h] at h'
  · rename_i ch' tail h'
    rw [h] at h'
    cases h'
    rw [if_neg hq, if_neg hb, if_neg (by omega)]

/-- After a backslash the reader looks at the escape letter: `u` starts a `\\u` escape, any other
letter must name a one-letter escape. -/
theorem readStringBody_of_backslash (h : c.rest = '\\' :: e :: r) :
    readStringBody c acc =
      if e = 'u' then
        match readUnicodeEscape c.advance.advance with
        | .error err => .error err
        | .ok (u, c₂) =>
          if c₂.rest.length < c.rest.length then readStringBody c₂ (u :: acc)
          else .error (c₂.here .outOfFuel)
      else
        match escapeOf? e with
        | some x => readStringBody c.advance.advance (x :: acc)
        | none => .error (c.advance.ahead .invalidEscape) := by
  rw [readStringBody]
  split
  · rename_i h'
    simp [h] at h'
  · rename_i ch' tail h'
    rw [h] at h'
    cases h'
    rw [if_neg (by decide), if_pos rfl]
    dsimp only
    split
    · rename_i h''
      simp [Cursor.advance_rest h] at h''
    · rename_i e' tail' h''
      rw [Cursor.advance_rest h] at h''
      cases h''
      split <;> rfl

theorem readStringBody_of_escape (h : c.rest = '\\' :: e :: r) (hu : e ≠ 'u')
    (hx : escapeOf? e = some x) :
    readStringBody c acc = readStringBody c.advance.advance (x :: acc) := by
  rw [readStringBody_of_backslash h, if_neg hu, hx]

theorem readStringBody_of_unicode (h : c.rest = '\\' :: 'u' :: r)
    (hu : readUnicodeEscape c.advance.advance = .ok (u, c₂))
    (hlt : c₂.rest.length < c.rest.length) :
    readStringBody c acc = readStringBody c₂ (u :: acc) := by
  rw [readStringBody_of_backslash h, if_pos rfl, hu]
  exact if_pos hlt

/-! ## `\u` escapes of control characters -/

section Hex

variable {a b d : Char} {na nb nd ne n : Nat}

theorem readHex4_of (h : c.rest = a :: b :: d :: e :: r) (ha : hexOf? a = some na)
    (hb : hexOf? b = some nb) (hd : hexOf? d = some nd) (he : hexOf? e = some ne) :
    readHex4 c = .ok (((na * 16 + nb) * 16 + nd) * 16 + ne, c.advance.advance.advance.advance) := by
  unfold readHex4
  simp only [h, ha, hb, hd, he]

/-- A `\u` escape below the surrogates stands for the character of its code. -/
theorem readUnicodeEscape_of_lt (h : readHex4 c = .ok (n, c')) (hn : n < 0xD800) :
    readUnicodeEscape c = .ok (Char.ofNat n, c') := by
  unfold readUnicodeEscape
  simp only [h, bind, Except.bind]
  rw [if_neg (by omega), if_pos (Or.inl hn)]
  rfl

theorem hexOf?_digit : ∀ d, d < 16 →
    hexOf? (if d < 10 then Char.ofNat (48 + d) else Char.ofNat (87 + d)) = some d := by
  decide

/-- The two digits `hex2` writes are read back as the two hexadecimal digits of the number. -/
theorem hex2_toList (n : Nat) : ∃ a b, (hex2 n).toList = [a, b] ∧
    hexOf? a = some (n / 16 % 16) ∧ hexOf? b = some (n % 16) :=
  ⟨_, _, String.toList_ofList, hexOf?_digit _ (Nat.mod_lt _ (by decide)),
    hexOf?_digit _ (Nat.mod_lt _ (by decide))⟩

end Hex

/-! ## One written character -/

theorem readStringBody_letterEscape (h : c.rest = '\\' :: e :: r) (hu : e ≠ 'u')
    (hx : escapeOf? e = some ch) :
    ∃ c', c'.rest = r ∧ readStringBody c acc = readStringBody c' (ch :: acc) :=
  ⟨c.advance.advance, Cursor.advance_rest (Cursor.advance_rest h), readStringBody_of_escape h hu hx⟩

theorem readStringBody_controlEscape
    (h : c.rest = '\\' :: 'u' :: '0' :: '0' :: (hex2 ch.toNat).toList ++ r) (hc : ch.toNat < 0x20) :
    ∃ c', c'.rest = r ∧ readStringBody c acc = readStringBody c' (ch :: acc) := by
  obtain ⟨a, b, hab, ha, hb⟩ := hex2_toList ch.toNat
  rw [hab] at h
  simp only [List.cons_append, List.nil_append] at h
  have h₂ := Cursor.advance_rest (Cursor.advance_rest h)
  have hzero : hexOf? '0' = some 0 := by decide
  have hhex := readHex4_of h₂ hzero hzero ha hb
  -- the four digits `00XX` spell the character's code
  have hn : ((0 * 16 + 0) * 16 + ch.toNat / 16 % 16) * 16 + ch.toNat % 16 = ch.toNat := by omega
  rw [hn] at hhex
  have hesc := readUnicodeEscape_of_lt hhex (by omega)
  rw [Char.ofNat_toNat] at hesc
  have hrest : c.advance.advance.advance.advance.advance.advance.rest = r :=
    Cursor.advance_rest (Cursor.advance_rest (Cursor.advance_rest (Cursor.advance_rest h₂)))
  refine ⟨_, hrest, readStringBody_of_unicode h hesc ?_⟩
  rw [hrest, h]
  simp only [List.length_cons]
  omega

/-- The reader takes each written character back, with what follows it untouched. -/
theorem readStringBody_escapeChar (h : c.rest = (escapeChar ch).toList ++ r) :
    ∃ c', c'.rest = r ∧ readStringBody c acc = readStringBody c' (ch :: acc) := by
  -- one case per branch of `escapeChar`: seven letter escapes, `\u00XX`, the character itself
  unfold escapeChar at h
  split at h
  · subst_vars; exact readStringBody_letterEscape (by simpa using h) (by decide) rfl
  split at h
  · subst_vars; exact readStringBody_letterEscape (by simpa using h) (by decide) rfl
  split at h
  · subst_vars; exact readStringBody_letterEscape (by simpa using h) (by decide) rfl
  split at h
  · subst_vars; exact readStringBody_letterEscape (by simpa using h) (by decide) rfl
  split at h
  · subst_vars; exact readStringBody_letterEscape (by simpa using h) (by decide) rfl
  split at h
  · rename_i h8
    refine readStringBody_letterEscape (by simpa using h) (by decide) ?_
    rw [← Char.ofNat_toNat ch, h8]
    rfl
  split at h
  · rename_i h12
    refine readStringBody_letterEscape (by simpa using h) (by decide) ?_
    rw [← Char.ofNat_toNat ch, h12]
    rfl
  split at h
  · rename_i hc
    exact readStringBody_controlEscape (by simpa using h) hc
  · rename_i hq hb _ _ _ _ _ hc
    have h' : c.rest = ch :: r := by simpa using h
    exact ⟨c.advance, Cursor.advance_rest h', readStringBody_of_plain h' hq hb (by omega)⟩

/-! ## A whole string -/

theorem escapeBody_toList (s : String) :
    (escapeBody s).toList = s.toList.flatMap (fun ch => (escapeChar ch).toList) := by
  -- the body is a fold from the empty text; generalise its seed
  suffices h : ∀ (l : List Char) (init : String),
      (l.foldl (fun acc ch => acc ++ escapeChar ch) init).toList =
        init.toList ++ l.flatMap (fun ch => (escapeChar ch).toList) by
    simpa [escapeBody] using h s.toList ""
  intro l
  induction l with
  | nil => simp
  | cons ch l ih =>
    intro init
    simp [ih, String.toList_append, List.append_assoc]

theorem readStringBody_escaped (cs : List Char) :
    ∀ (c : Cursor) (acc : List Char),
      c.rest = cs.flatMap (fun ch => (escapeChar ch).toList) ++ '"' :: r →
      ∃ c', c'.rest = r ∧ readStringBody c acc = .ok (String.ofList (acc.reverse ++ cs), c') := by
  induction cs with
  | nil =>
    intro c acc h
    exact ⟨c.advance, Cursor.advance_rest h, by rw [readStringBody_of_quote h, List.append_nil]⟩
  | cons ch cs ih =>
    intro c acc h
    rw [List.flatMap_cons, List.append_assoc] at h
    obtain ⟨c₁, h₁, hread₁⟩ := readStringBody_escapeChar h
    obtain ⟨c', h', hread'⟩ := ih c₁ (ch :: acc) h₁
    refine ⟨c', h', ?_⟩
    rw [hread₁, hread', List.reverse_cons, List.append_assoc, List.singleton_append]

/-- **The reader inverts the writer.** Reading the body of a written string, whatever text
follows its closing quote, gives back the string and stops right after that quote. -/
theorem readStringBody_quoted (s : String) (h : c.rest = (escapeBody s).toList ++ '"' :: r) :
    ∃ c', c'.rest = r ∧ readStringBody c [] = .ok (s, c') := by
  rw [escapeBody_toList] at h
  obtain ⟨c', h', hread⟩ := readStringBody_escaped s.toList c [] h
  exact ⟨c', h', by rw [hread, List.reverse_nil, List.nil_append, String.ofList_toList]⟩

/-- An escaped body followed by a quote determines the string and what follows. -/
theorem escapeBody_append_cancel {s t : String} {r r' : List Char}
    (h : (escapeBody s).toList ++ '"' :: r = (escapeBody t).toList ++ '"' :: r') :
    s = t ∧ r = r' := by
  -- read both sides with the same cursor: one reader, one answer
  let c : Cursor := ⟨(escapeBody s).toList ++ '"' :: r, 0, 0⟩
  obtain ⟨c₁, h₁, hs⟩ := readStringBody_quoted s (show c.rest = _ from rfl)
  obtain ⟨c₂, h₂, ht⟩ := readStringBody_quoted t (show c.rest = _ from h)
  rw [hs] at ht
  cases ht
  exact ⟨rfl, h₁.symm.trans h₂⟩

/-- **A written string is self-delimiting.** Two texts that start with written strings agree
only if the strings agree and so does the rest. -/
theorem quote_append_cancel {s t : String} {r r' : List Char}
    (h : (quote s).toList ++ r = (quote t).toList ++ r') : s = t ∧ r = r' := by
  simp only [quote, String.toList_append, List.append_assoc] at h
  simp only [show ("\"" : String).toList = ['"'] from rfl, List.singleton_append,
    List.cons.injEq, true_and] at h
  exact escapeBody_append_cancel h

end Json

end QueryRelay
