import TableMapper.Pattern.Property.Binary

/-!
# Where text breaks

The classes of characters that decide where text breaks between what a reader takes for one
character, between words and between sentences.

* `graphemeBreak?`, `wordBreak?` and `sentenceBreak?` find a class by its name.
-/

namespace TableMapper

namespace Pattern

namespace Property

/-- The characters from one to another. -/
def span (low high : Nat) : Description := .intervals [(low, high)]

/-- The first syllable of every row of Hangul syllables with the same beginning and vowel. -/
def openSyllables : List (Nat × Nat) :=
  (List.range 399).map fun i => (0xAC00 + 28 * i, 0xAC00 + 28 * i)

/-- Marks that take space. -/
def spacingMark : Description := .diff (.categories ["Mc"]) graphemeExtend

/-- Marks of every kind that extend the character in front. -/
def mark : Description := .union graphemeExtend (.categories ["Mc"])

/-- Formats that stand by themselves in words and sentences. -/
def separateFormat : Description :=
  .diff (.categories ["Cf"]) (.union mark (.union (span 0x200B 0x200D) prependedConcatenationMark))

/-- Signs that span the digits behind them, as in a number. -/
def numberSign : Description := .diff prependedConcatenationMark (span 0x70F 0x70F)

/-- The classes between characters. -/
def graphemeClasses : List (List String × Description) :=
  [(["cn", "control"],
      .diff
        (.union (.categories ["Zl", "Zp", "Cc", "Cf"])
          (.inter (.categories ["Cn"]) defaultIgnorableCodePoint))
        (.union (.union graphemeExtend prependedConcatenationMark)
          (.intervals [(0xA, 0xA), (0xD, 0xD), (0x200C, 0x200D)]))),
    (["cr"], span 0xD 0xD),
    (["ex", "extend"], .diff (.union graphemeExtend emojiModifier) (span 0x200D 0x200D)),
    (["l"], .intervals [(0x1100, 0x115F), (0xA960, 0xA97C)]),
    (["lf"], span 0xA 0xA),
    (["lv"], .intervals openSyllables),
    (["lvt"], .diff (span 0xAC00 0xD7A3) (.intervals openSyllables)),
    (["pp", "prepend"],
      .union prependedConcatenationMark
        (.intervals [(0xD4E, 0xD4E), (0x111C2, 0x111C3), (0x113D1, 0x113D1),
            (0x1193F, 0x1193F), (0x11941, 0x11941), (0x11A3A, 0x11A3A), (0x11A84, 0x11A89),
            (0x11D46, 0x11D46), (0x11F02, 0x11F02)])),
    (["ri", "regionalindicator"], regionalIndicator),
    (["sm", "spacingmark"],
      .union (.intervals [(0xE33, 0xE33), (0xEB3, 0xEB3)])
        (.diff spacingMark
          (.intervals [(0x102B, 0x102C), (0x1038, 0x1038), (0x1062, 0x1064),
              (0x1067, 0x106D), (0x1083, 0x1083), (0x1087, 0x108C), (0x108F, 0x108F),
              (0x109A, 0x109C), (0x1A61, 0x1A61), (0x1A63, 0x1A64), (0xAA7B, 0xAA7B),
              (0xAA7D, 0xAA7D), (0x11720, 0x11721)]))),
    (["t"], .intervals [(0x11A8, 0x11FF), (0xD7CB, 0xD7FB)]),
    (["v"],
      .intervals [(0x1160, 0x11A7), (0xD7B0, 0xD7C6), (0x16D63, 0x16D63), (0x16D67, 0x16D6A)]),
    (["zwj"], span 0x200D 0x200D)]

/-- Letters of scripts that are written without spaces between words. -/
def unspacedLetter : Description :=
  .union (.union ideographic (.union (.script "Kana") (.script "Hira")))
    (.intervals [(0xE01, 0xE30), (0xE32, 0xE33), (0xE40, 0xE46), (0xE81, 0xE82),
        (0xE84, 0xE84), (0xE86, 0xE8A), (0xE8C, 0xEA3), (0xEA5, 0xEA5), (0xEA7, 0xEB0),
        (0xEB2, 0xEB3), (0xEBD, 0xEBD), (0xEC0, 0xEC4), (0xEC6, 0xEC6), (0xEDC, 0xEDF),
        (0x1000, 0x102A), (0x103F, 0x103F), (0x1050, 0x1055), (0x105A, 0x105D), (0x1061, 0x1061),
        (0x1065, 0x1066), (0x106E, 0x1070), (0x1075, 0x1081), (0x108E, 0x108E), (0x1780, 0x17B3),
        (0x17D7, 0x17D7), (0x17DC, 0x17DC), (0x1950, 0x196D), (0x1970, 0x1974), (0x1980, 0x19AB),
        (0x19B0, 0x19C9), (0x1A20, 0x1A54), (0x1AA7, 0x1AA7), (0xA9E0, 0xA9E4), (0xA9E6, 0xA9EF),
        (0xA9FA, 0xA9FE), (0xAA60, 0xAA76), (0xAA7A, 0xAA7A), (0xAA7E, 0xAAAF), (0xAAB1, 0xAAB1),
        (0xAAB5, 0xAAB6), (0xAAB9, 0xAABD), (0xAAC0, 0xAAC0), (0xAAC2, 0xAAC2), (0xAADB, 0xAADD),
        (0x11700, 0x1171A), (0x11740, 0x11746)])

/-- Katakana and the signs written with it. -/
def katakanaWord : Description :=
  .union (.script "Kana")
    (.intervals [(0x3031, 0x3035), (0x309B, 0x309C), (0x30A0, 0x30A0),
        (0x30FC, 0x30FC), (0xFF70, 0xFF70)])

/-- Hebrew letters. -/
def hebrewLetter : Description := .inter (.script "Hebr") (.categories ["Lo"])

/-- Marks and skin tones, which extend the character in front within a word. -/
def wordExtend : Description := .diff (.union mark emojiModifier) (span 0x200D 0x200D)

/-- The classes between words. -/
def wordClasses : List (List String × Description) :=
  [(["le", "aletter"],
      .union
        (.diff alphabetic
          (.union (.union unspacedLetter katakanaWord) (.union hebrewLetter wordExtend)))
        (.union (span 0x70F 0x70F)
          (.intervals [(0x2C2, 0x2C5), (0x2D2, 0x2D7), (0x2DE, 0x2DF), (0x2E5, 0x2EB),
            (0x2ED, 0x2ED), (0x2EF, 0x2FF), (0x55A, 0x55C), (0x55E, 0x55E), (0x58A, 0x58A),
            (0x5F3, 0x5F3), (0xA708, 0xA716), (0xA720, 0xA721), (0xA789, 0xA78A),
            (0xAB5B, 0xAB5B)]))),
    (["cr"], span 0xD 0xD),
    (["dq", "doublequote"], span 0x22 0x22),
    (["extend"], wordExtend),
    (["ex", "extendnumlet"], .union (.categories ["Pc"]) (span 0x202F 0x202F)),
    (["fo", "format"], separateFormat),
    (["hl", "hebrewletter"], hebrewLetter),
    (["ka", "katakana"], katakanaWord),
    (["lf"], span 0xA 0xA),
    (["ml", "midletter"],
      .intervals [(0x3A, 0x3A), (0xB7, 0xB7), (0x387, 0x387), (0x55F, 0x55F),
        (0x5F4, 0x5F4), (0x2027, 0x2027), (0xFE13, 0xFE13), (0xFE55, 0xFE55), (0xFF1A, 0xFF1A)]),
    (["mn", "midnum"],
      .intervals [(0x2C, 0x2C), (0x3B, 0x3B), (0x37E, 0x37E), (0x589, 0x589),
        (0x60C, 0x60D), (0x66C, 0x66C), (0x7F8, 0x7F8), (0x2044, 0x2044), (0xFE10, 0xFE10),
        (0xFE14, 0xFE14), (0xFE50, 0xFE50), (0xFE54, 0xFE54), (0xFF0C, 0xFF0C), (0xFF1B, 0xFF1B)]),
    (["mb", "midnumlet"],
      .intervals [(0x2E, 0x2E), (0x2018, 0x2019), (0x2024, 0x2024), (0xFE52, 0xFE52),
        (0xFF07, 0xFF07), (0xFF0E, 0xFF0E)]),
    (["nl", "newline"], .intervals [(0xB, 0xC), (0x85, 0x85), (0x2028, 0x2029)]),
    (["nu", "numeric"], .union (.categories ["Nd"]) (.union numberSign (span 0x66B 0x66B))),
    (["ri", "regionalindicator"], regionalIndicator),
    (["sq", "singlequote"], span 0x27 0x27),
    (["wsegspace"],
      .diff (.categories ["Zs"])
        (.intervals [(0xA0, 0xA0), (0x2007, 0x2007), (0x202F, 0x202F)])),
    (["zwj"], span 0x200D 0x200D)]

/-- A point that may end a sentence. -/
def sentencePoint : Description :=
  .intervals [(0x2E, 0x2E), (0x2024, 0x2024), (0xFE52, 0xFE52), (0xFF0E, 0xFF0E)]

/-- Small letters at the start of a sentence.  Georgian small letters begin sentences too. -/
def sentenceLower : Description :=
  .diff (.diff lowercase graphemeExtend) (.intervals [(0x10D0, 0x10FA), (0x10FD, 0x10FF)])

/-- Capital letters at the start of a sentence. -/
def sentenceUpper : Description :=
  .diff (.union uppercase (.categories ["Lt"])) (.intervals [(0x1C90, 0x1CBA), (0x1CBD, 0x1CBF)])

/-- The classes between sentences. -/
def sentenceClasses : List (List String × Description) :=
  [(["at", "aterm"], sentencePoint),
    (["cl", "close"],
      .diff
        (.union (.union (.categories ["Ps", "Pe", "Pi", "Pf"]) quotationMark)
          (.intervals [(0x275B, 0x2760), (0x2E00, 0x2E01), (0x2E06, 0x2E08),
            (0x2E0B, 0x2E0B), (0x1F676, 0x1F678)]))
        (.intervals [(0xFF02, 0xFF02), (0xFF07, 0xFF07)])),
    (["cr"], span 0xD 0xD),
    (["ex", "extend"], .union mark (span 0x200D 0x200D)),
    (["fo", "format"], .union separateFormat (span 0x200B 0x200B)),
    (["lf"], span 0xA 0xA),
    (["lo", "lower"], sentenceLower),
    (["nu", "numeric"], .union (.categories ["Nd"]) (.union numberSign (span 0x66B 0x66C))),
    (["le", "oletter"],
      .diff (.union alphabetic (.intervals [(0x5F3, 0x5F3), (0x70F, 0x70F)]))
        (.union (.union sentenceLower sentenceUpper) mark)),
    (["sc", "scontinue"],
      .intervals [(0x2C, 0x2D), (0x3A, 0x3A), (0x55D, 0x55D), (0x60C, 0x60D),
        (0x7F8, 0x7F8), (0x1802, 0x1802), (0x1808, 0x1808), (0x2013, 0x2014), (0x3001, 0x3001),
        (0xFE10, 0xFE11), (0xFE13, 0xFE13), (0xFE31, 0xFE32), (0xFE50, 0xFE51), (0xFE55, 0xFE55),
        (0xFE58, 0xFE58), (0xFE63, 0xFE63), (0xFF0C, 0xFF0D), (0xFF1A, 0xFF1A), (0xFF64, 0xFF64)]),
    (["se", "sep"], .intervals [(0x85, 0x85), (0x2028, 0x2029)]),
    (["sp"],
      .diff whiteSpace (.intervals [(0xA, 0xA), (0xD, 0xD), (0x85, 0x85), (0x2028, 0x2029)])),
    (["st", "sterm"], .diff sentenceTerminal sentencePoint),
    (["up", "upper"], sentenceUpper)]

/-- A class between characters. -/
def graphemeBreak? (name : String) : Option Description :=
  (graphemeClasses.find? fun (names, _) => names.contains name).map (·.2)

/-- A class between words. -/
def wordBreak? (name : String) : Option Description :=
  (wordClasses.find? fun (names, _) => names.contains name).map (·.2)

/-- A class between sentences. -/
def sentenceBreak? (name : String) : Option Description :=
  (sentenceClasses.find? fun (names, _) => names.contains name).map (·.2)

end Property

end Pattern

end TableMapper
