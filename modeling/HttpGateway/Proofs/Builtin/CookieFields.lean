import HttpGateway.Builtin.Predicates
import HttpGateway.Proofs.OrderedMap
import HttpGateway.Proofs.Text.Commas

namespace HttpGateway

namespace Text

variable {p : Char → Bool}

theorem dropWhile_append_of_head {lead core : List Char} (hlead : ∀ c ∈ lead, p c)
    (hhead : ∀ c ∈ core.head?, p c = false) : (lead ++ core).dropWhile p = core := by
  rw [List.dropWhile_append_of_pos hlead]
  cases core with
  | nil => rfl
  | cons c core => exact List.dropWhile_cons_of_neg (by simp [hhead c rfl])

theorem trimBy_append {lead core : List Char} (hlead : ∀ c ∈ lead, p c)
    (hhead : ∀ c ∈ core.head?, p c = false) (hlast : ∀ c ∈ core.getLast?, p c = false) :
    trimBy p (lead ++ core) = core := by
  have hend : ([] ++ core.reverse).dropWhile p = core.reverse :=
    dropWhile_append_of_head (by simp) (by rwa [List.head?_reverse])
  rw [List.nil_append] at hend
  rw [trimBy, dropWhile_append_of_head hlead hhead, hend, List.reverse_reverse]

theorem trimBy_append_cons {lead core : List Char} {c : Char} (hlead : ∀ c ∈ lead, p c)
    (hc : p c = false) : ∃ kept, trimBy p (lead ++ c :: core) = c :: kept := by
  have hhead : ∀ d ∈ (c :: core).head?, p d = false := by simpa using hc
  rw [trimBy, dropWhile_append_of_head hlead hhead, List.reverse_cons, List.dropWhile_append]
  split
  · exact ⟨[], by simp [hc]⟩
  · exact ⟨(core.reverse.dropWhile p).reverse, by simp⟩

end Text

open HttpGateway.Text

namespace Cookies

/-- A cookie that can be written. Its name does not begin with a blank and its value does not end
with one; the value may begin with blanks, be empty or hold equals signs. -/
structure Pair where
  name : String
  value : String
  name_ne_empty : name ≠ ""
  name_plain : '=' ∉ name.toList ∧ ';' ∉ name.toList
  name_start : ∀ c ∈ name.toList.head?, isBlank c = false
  value_plain : ';' ∉ value.toList
  value_end : ∀ c ∈ value.toList.getLast?, isBlank c = false

structure Stray where
  text : String
  plain : ';' ∉ text.toList
  unnamed : '=' ∉ text.toList ∨
    ∃ front back, text.toList = front ++ '=' :: back ∧ ∀ c ∈ front, isBlank c

inductive Piece where
  | pair (p : Pair)
  | stray (s : Stray)

namespace Piece

def text : Piece → List Char
  | pair p => p.name.toList ++ '=' :: p.value.toList
  | stray s => s.text.toList

def pair? : Piece → Option (String × String)
  | pair p => some (p.name, p.value)
  | stray _ => none

theorem semicolon_notMem (p : Piece) : ';' ∉ p.text := by
  cases p with
  | pair p => simp [text, p.name_plain.2, p.value_plain]
  | stray s => exact s.plain

end Piece

abbrev Field := List (Nat × Piece)

def spaced (p : Nat × Piece) : List Char := List.replicate p.1 ' ' ++ p.2.text

def Field.text (f : Field) : String := String.ofList (joinBy ';' (f.map spaced))

def Field.pairs (f : Field) : List (String × String) := f.filterMap fun p => p.2.pair?

theorem isBlank_of_mem_spaces {n : Nat} {c : Char} (h : c ∈ List.replicate n ' ') : isBlank c := by
  rw [List.eq_of_mem_replicate h]
  decide

theorem readPiece_of_trimBy {cs name value : List Char} (hne : name ≠ []) (hname : '=' ∉ name)
    (h : trimBy isBlank cs = name ++ '=' :: value) :
    readPiece cs = some (String.ofList name, String.ofList value) := by
  obtain ⟨c, rest, rfl⟩ := List.exists_cons_of_ne_nil hne
  rw [readPiece, h, cut_append hname]

theorem readPiece_pair (n : Nat) (p : Pair) :
    readPiece (spaced (n, .pair p)) = some (p.name, p.value) := by
  have hne : p.name.toList ≠ [] := fun h => p.name_ne_empty (String.toList_eq_nil_iff.1 h)
  have htrim : trimBy isBlank (List.replicate n ' ' ++ (p.name.toList ++ '=' :: p.value.toList)) =
      p.name.toList ++ '=' :: p.value.toList := by
    refine trimBy_append (fun c => isBlank_of_mem_spaces) ?_ fun c hc => ?_
    · obtain ⟨c, rest, hname⟩ := List.exists_cons_of_ne_nil hne
      have hstart := p.name_start
      rwa [hname] at hstart ⊢
    · rw [List.getLast?_append, List.getLast?_cons, Option.some_or] at hc
      cases hlast : p.value.toList.getLast? with
      | none =>
        rw [hlast] at hc
        cases hc
        decide
      | some d =>
        rw [hlast] at hc
        cases hc
        exact p.value_end d hlast
  have hread := readPiece_of_trimBy hne p.name_plain.1 htrim
  rwa [String.ofList_toList, String.ofList_toList] at hread

theorem readPiece_of_notMem {cs : List Char} (h : '=' ∉ cs) : readPiece cs = none := by
  have htrim : '=' ∉ trimBy isBlank cs := fun hc => h (mem_of_mem_trimBy hc)
  rw [readPiece, cut_of_notMem htrim]
  cases trimBy isBlank cs with
  | nil => rfl
  | cons => rfl

theorem readPiece_of_no_name {lead back : List Char} (hlead : ∀ c ∈ lead, isBlank c) :
    readPiece (lead ++ '=' :: back) = none := by
  have hequals : isBlank '=' = false := by decide
  obtain ⟨kept, htrim⟩ := @trimBy_append_cons isBlank lead back '=' hlead hequals
  have hcut : cut '=' ('=' :: kept) = ([], some kept) := cut_append List.not_mem_nil kept
  rw [readPiece, htrim, hcut]

theorem readPiece_stray (n : Nat) (s : Stray) : readPiece (spaced (n, .stray s)) = none := by
  have hspaced : spaced (n, .stray s) = List.replicate n ' ' ++ s.text.toList := rfl
  rcases s.unnamed with h | ⟨front, back, h, hfront⟩
  · refine readPiece_of_notMem fun hc => ?_
    rcases List.mem_append.1 hc with hc | hc
    · exact absurd (List.eq_of_mem_replicate hc) (by decide)
    · exact h hc
  · rw [hspaced, h, ← List.append_assoc]
    refine readPiece_of_no_name fun c hc => ?_
    rcases List.mem_append.1 hc with hc | hc
    · exact isBlank_of_mem_spaces hc
    · exact hfront c hc

theorem readPiece_spaced (p : Nat × Piece) : readPiece (spaced p) = p.2.pair? := by
  obtain ⟨n, p | s⟩ := p
  · exact readPiece_pair n p
  · exact readPiece_stray n s

theorem ofField_text (f : Field) : ofField f.text = f.pairs := by
  rw [ofField, Field.text, String.toList_ofList]
  cases f with
  | nil => rfl
  | cons p f =>
    have hplain : ∀ q ∈ (p :: f).map spaced, ';' ∉ q := by
      refine List.forall_mem_map.2 fun q _ hq => ?_
      rcases List.mem_append.1 hq with hq | hq
      · exact absurd (List.eq_of_mem_replicate hq) (by decide)
      · exact q.2.semicolon_notMem hq
    rw [splitAt_joinBy (by simp) hplain, List.filterMap_map, Field.pairs]
    congr 1
    funext q
    exact readPiece_spaced q

def written (fs : List Field) : List (String × String) := fs.flatMap Field.pairs

theorem ofHeaders_written {h : Headers} {fs : List Field}
    (hfs : (h.fields.filter fun f => Headers.lowerAscii f.1 == "cookie").map Prod.snd =
      fs.map Field.text) : ofHeaders h = OrderedMap.ofList (written fs) := by
  have hvalues : h.values "cookie" = fs.map Field.text := hfs
  rw [ofHeaders, hvalues, List.flatMap_map, written]
  simp only [ofField_text]

end Cookies

/-- What a request holds in its `Cookie` fields, wherever they stand among the others, are the names
of the pairs that are written there, each with its last value. A condition on a cookie looks at that
value, and fails for every other name. -/
theorem Request.cookies_of_written {r : Request} {fs : List Cookies.Field}
    (hfs : (r.headers.fields.filter fun f => Headers.lowerAscii f.1 == "cookie").map Prod.snd =
      fs.map Cookies.Field.text) :
    r.cookies.keys = ((Cookies.written fs).map Prod.fst).eraseDups ∧
    (∀ before name value after, Cookies.written fs = before ++ (name, value) :: after →
      name ∉ after.map Prod.fst → r.cookies.get? name = some value ∧
        ∀ e now, (Condition.cookie name e).holds now r = e.accepts value) ∧
    (∀ name, name ∉ (Cookies.written fs).map Prod.fst → r.cookies.get? name = none ∧
      ∀ e now, (Condition.cookie name e).holds now r = .ok false) := by
  have hcookies : r.cookies = OrderedMap.ofList (Cookies.written fs) :=
    Cookies.ofHeaders_written hfs
  have hholds : ∀ name e now, (Condition.cookie name e).holds now r =
      (r.cookies.get? name).elim (.ok false) e.accepts := fun _ _ _ => rfl
  have hkeys : r.cookies.keys = ((Cookies.written fs).map Prod.fst).eraseDups := by
    rw [hcookies, OrderedMap.keys_ofList]
  refine ⟨hkeys, ?_, ?_⟩
  · intro before name value after hsplit hlast
    have hget : r.cookies.get? name = some value := by
      rw [hcookies, OrderedMap.get?_ofList, List.lookup_eq_some_iff]
      refine ⟨after.reverse, before.reverse, by simp [hsplit], fun e he => ?_⟩
      have hne : name ≠ e.1 := by
        rintro rfl
        exact hlast (List.mem_map_of_mem (List.mem_reverse.1 he))
      simpa using hne
    refine ⟨hget, fun e now => ?_⟩
    rw [hholds, hget, Option.elim_some]
  · intro name hname
    have hget : r.cookies.get? name = none := by
      rw [OrderedMap.get?_eq_none_iff, hkeys, List.mem_eraseDups]
      exact hname
    refine ⟨hget, fun e now => ?_⟩
    rw [hholds, hget, Option.elim_none]

namespace Sample

open Cookies

def plainTheme : Pair where
  name := "theme"
  value := "dark"
  name_ne_empty := by decide
  name_plain := by decide
  name_start := by
    rintro c ⟨⟩
    decide
  value_plain := by decide
  value_end := by
    rintro c ⟨⟩
    decide

def emptyTheme : Pair where
  name := "theme"
  value := ""
  name_ne_empty := by decide
  name_plain := by decide
  name_start := by
    rintro c ⟨⟩
    decide
  value_plain := by decide
  value_end := by
    rintro c ⟨⟩

def spacedToken : Pair where
  name := "token"
  value := " a=b"
  name_ne_empty := by decide
  name_plain := by decide
  name_start := by
    rintro c ⟨⟩
    decide
  value_plain := by decide
  value_end := by
    rintro c ⟨⟩
    decide

def flag : Stray := ⟨"flag", by decide, .inl (by decide)⟩

def unnamedPiece : Stray :=
  ⟨" =x", by decide, .inr ⟨[' '], ['x'], by decide, List.forall_mem_singleton.2 (by decide)⟩⟩

def cookieVisit : Request :=
  ⟨"GET", ⟨"http", "", "gateway.local", none, "/", none, none⟩,
    ⟨[("Cookie", "theme=dark;  token= a=b;flag"), ("Accept", "*/*"), ("COOKIE", " =x; theme=")]⟩, ""⟩

def visitFields : List Field :=
  [[(0, .pair plainTheme), (2, .pair spacedToken), (0, .stray flag)],
    [(0, .stray unnamedPiece), (1, .pair emptyTheme)]]

theorem cookies_of_written_themes :
    cookieVisit.cookies.keys = ["theme", "token"] ∧ cookieVisit.cookies.get? "theme" = some "" ∧
      (∀ e now, (Condition.cookie "token" e).holds now cookieVisit = e.accepts " a=b") ∧
      ∀ e now, (Condition.cookie "flag" e).holds now cookieVisit = .ok false := by
  have hwritten : written visitFields =
      [("theme", "dark"), ("token", " a=b"), ("theme", "")] := rfl
  have hfields : (cookieVisit.headers.fields.filter
      fun f => Headers.lowerAscii f.1 == "cookie").map Prod.snd = visitFields.map Field.text := by
    decide
  obtain ⟨hkeys, hlast, hother⟩ := Request.cookies_of_written hfields
  rw [hwritten] at hkeys hlast hother
  refine ⟨hkeys.trans (by decide), ?_, ?_, (hother "flag" (by decide)).2⟩
  · exact (hlast [("theme", "dark"), ("token", " a=b")] "theme" "" [] rfl (by decide)).1
  · exact (hlast [("theme", "dark")] "token" " a=b" [("theme", "")] rfl (by decide)).2

end Sample

end HttpGateway
