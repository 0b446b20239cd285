import CarbonIntensity.Text.Table

/-!
# Composed texts

The normal form of a text in which letters and marks are composed (Normalization Form C): pairs are
taken apart as far as possible, the marks after a letter are put in the order of their strength, and
each mark is then joined to its letter where the two are one character and no mark of at least its
strength stands between.

The tables of the Unicode standard say how strongly marks cling to the letter before them
(Canonical_Combining_Class, of characters that may stand in domain names), and which pairs of characters
are one character when composed. Syllables of Hangul are composed by number:
`0xAC00 + 588 · lead + 28 · vowel + tail`.

Characters that stand for another one alone are taken as they are; the mapping of domain names has
replaced them before.
-/

namespace CarbonIntensity.Text

/-! ## Tables -/

/-- Characters of one combining class. -/
structure ClassRun where
  first : Nat
  last : Nat
  strength : Nat

def classRuns : List ClassRun :=
  [
    ⟨0x300, 0x314, 230⟩, ⟨0x315, 0x315, 232⟩, ⟨0x316, 0x319, 220⟩, ⟨0x31A, 0x31A, 232⟩,
    ⟨0x31B, 0x31B, 216⟩, ⟨0x31C, 0x320, 220⟩, ⟨0x321, 0x322, 202⟩, ⟨0x323, 0x326, 220⟩,
    ⟨0x327, 0x328, 202⟩, ⟨0x329, 0x333, 220⟩, ⟨0x334, 0x338, 1⟩, ⟨0x339, 0x33C, 220⟩,
    ⟨0x33D, 0x346, 230⟩, ⟨0x347, 0x349, 220⟩, ⟨0x34A, 0x34C, 230⟩, ⟨0x34D, 0x34E, 220⟩,
    ⟨0x350, 0x352, 230⟩, ⟨0x353, 0x356, 220⟩, ⟨0x357, 0x357, 230⟩, ⟨0x358, 0x358, 232⟩,
    ⟨0x359, 0x35A, 220⟩, ⟨0x35B, 0x35B, 230⟩, ⟨0x35C, 0x35C, 233⟩, ⟨0x35D, 0x35E, 234⟩,
    ⟨0x35F, 0x35F, 233⟩, ⟨0x360, 0x361, 234⟩, ⟨0x362, 0x362, 233⟩, ⟨0x363, 0x36F, 230⟩,
    ⟨0x483, 0x487, 230⟩, ⟨0x591, 0x591, 220⟩, ⟨0x592, 0x595, 230⟩, ⟨0x596, 0x596, 220⟩,
    ⟨0x597, 0x599, 230⟩, ⟨0x59A, 0x59A, 222⟩, ⟨0x59B, 0x59B, 220⟩, ⟨0x59C, 0x5A1, 230⟩,
    ⟨0x5A2, 0x5A7, 220⟩, ⟨0x5A8, 0x5A9, 230⟩, ⟨0x5AA, 0x5AA, 220⟩, ⟨0x5AB, 0x5AC, 230⟩,
    ⟨0x5AD, 0x5AD, 222⟩, ⟨0x5AE, 0x5AE, 228⟩, ⟨0x5AF, 0x5AF, 230⟩, ⟨0x5B0, 0x5B0, 10⟩,
    ⟨0x5B1, 0x5B1, 11⟩, ⟨0x5B2, 0x5B2, 12⟩, ⟨0x5B3, 0x5B3, 13⟩, ⟨0x5B4, 0x5B4, 14⟩,
    ⟨0x5B5, 0x5B5, 15⟩, ⟨0x5B6, 0x5B6, 16⟩, ⟨0x5B7, 0x5B7, 17⟩, ⟨0x5B8, 0x5B8, 18⟩,
    ⟨0x5B9, 0x5BA, 19⟩, ⟨0x5BB, 0x5BB, 20⟩, ⟨0x5BC, 0x5BC, 21⟩, ⟨0x5BD, 0x5BD, 22⟩,
    ⟨0x5BF, 0x5BF, 23⟩, ⟨0x5C1, 0x5C1, 24⟩, ⟨0x5C2, 0x5C2, 25⟩, ⟨0x5C4, 0x5C4, 230⟩,
    ⟨0x5C5, 0x5C5, 220⟩, ⟨0x5C7, 0x5C7, 18⟩, ⟨0x610, 0x617, 230⟩, ⟨0x618, 0x618, 30⟩,
    ⟨0x619, 0x619, 31⟩, ⟨0x61A, 0x61A, 32⟩, ⟨0x64B, 0x64B, 27⟩, ⟨0x64C, 0x64C, 28⟩,
    ⟨0x64D, 0x64D, 29⟩, ⟨0x64E, 0x64E, 30⟩, ⟨0x64F, 0x64F, 31⟩, ⟨0x650, 0x650, 32⟩,
    ⟨0x651, 0x651, 33⟩, ⟨0x652, 0x652, 34⟩, ⟨0x653, 0x654, 230⟩, ⟨0x655, 0x656, 220⟩,
    ⟨0x657, 0x65B, 230⟩, ⟨0x65C, 0x65C, 220⟩, ⟨0x65D, 0x65E, 230⟩, ⟨0x65F, 0x65F, 220⟩,
    ⟨0x670, 0x670, 35⟩, ⟨0x6D6, 0x6DC, 230⟩, ⟨0x6DF, 0x6E2, 230⟩, ⟨0x6E3, 0x6E3, 220⟩,
    ⟨0x6E4, 0x6E4, 230⟩, ⟨0x6E7, 0x6E8, 230⟩, ⟨0x6EA, 0x6EA, 220⟩, ⟨0x6EB, 0x6EC, 230⟩,
    ⟨0x6ED, 0x6ED, 220⟩, ⟨0x711, 0x711, 36⟩, ⟨0x730, 0x730, 230⟩, ⟨0x731, 0x731, 220⟩,
    ⟨0x732, 0x733, 230⟩, ⟨0x734, 0x734, 220⟩, ⟨0x735, 0x736, 230⟩, ⟨0x737, 0x739, 220⟩,
    ⟨0x73A, 0x73A, 230⟩, ⟨0x73B, 0x73C, 220⟩, ⟨0x73D, 0x73D, 230⟩, ⟨0x73E, 0x73E, 220⟩,
    ⟨0x73F, 0x741, 230⟩, ⟨0x742, 0x742, 220⟩, ⟨0x743, 0x743, 230⟩, ⟨0x744, 0x744, 220⟩,
    ⟨0x745, 0x745, 230⟩, ⟨0x746, 0x746, 220⟩, ⟨0x747, 0x747, 230⟩, ⟨0x748, 0x748, 220⟩,
    ⟨0x749, 0x74A, 230⟩, ⟨0x7EB, 0x7F1, 230⟩, ⟨0x7F2, 0x7F2, 220⟩, ⟨0x7F3, 0x7F3, 230⟩,
    ⟨0x7FD, 0x7FD, 220⟩, ⟨0x816, 0x819, 230⟩, ⟨0x81B, 0x823, 230⟩, ⟨0x825, 0x827, 230⟩,
    ⟨0x829, 0x82D, 230⟩, ⟨0x859, 0x85B, 220⟩, ⟨0x897, 0x898, 230⟩, ⟨0x899, 0x89B, 220⟩,
    ⟨0x89C, 0x89F, 230⟩, ⟨0x8CA, 0x8CE, 230⟩, ⟨0x8CF, 0x8D3, 220⟩, ⟨0x8D4, 0x8E1, 230⟩,
    ⟨0x8E3, 0x8E3, 220⟩, ⟨0x8E4, 0x8E5, 230⟩, ⟨0x8E6, 0x8E6, 220⟩, ⟨0x8E7, 0x8E8, 230⟩,
    ⟨0x8E9, 0x8E9, 220⟩, ⟨0x8EA, 0x8EC, 230⟩, ⟨0x8ED, 0x8EF, 220⟩, ⟨0x8F0, 0x8F0, 27⟩,
    ⟨0x8F1, 0x8F1, 28⟩, ⟨0x8F2, 0x8F2, 29⟩, ⟨0x8F3, 0x8F5, 230⟩, ⟨0x8F6, 0x8F6, 220⟩,
    ⟨0x8F7, 0x8F8, 230⟩, ⟨0x8F9, 0x8FA, 220⟩, ⟨0x8FB, 0x8FF, 230⟩, ⟨0x93C, 0x93C, 7⟩,
    ⟨0x94D, 0x94D, 9⟩, ⟨0x951, 0x951, 230⟩, ⟨0x952, 0x952, 220⟩, ⟨0x953, 0x954, 230⟩,
    ⟨0x9BC, 0x9BC, 7⟩, ⟨0x9CD, 0x9CD, 9⟩, ⟨0x9FE, 0x9FE, 230⟩, ⟨0xA3C, 0xA3C, 7⟩,
    ⟨0xA4D, 0xA4D, 9⟩, ⟨0xABC, 0xABC, 7⟩, ⟨0xACD, 0xACD, 9⟩, ⟨0xB3C, 0xB3C, 7⟩,
    ⟨0xB4D, 0xB4D, 9⟩, ⟨0xBCD, 0xBCD, 9⟩, ⟨0xC3C, 0xC3C, 7⟩, ⟨0xC4D, 0xC4D, 9⟩,
    ⟨0xC55, 0xC55, 84⟩, ⟨0xC56, 0xC56, 91⟩, ⟨0xCBC, 0xCBC, 7⟩, ⟨0xCCD, 0xCCD, 9⟩,
    ⟨0xD3B, 0xD3C, 9⟩, ⟨0xD4D, 0xD4D, 9⟩, ⟨0xDCA, 0xDCA, 9⟩, ⟨0xE38, 0xE39, 103⟩,
    ⟨0xE3A, 0xE3A, 9⟩, ⟨0xE48, 0xE4B, 107⟩, ⟨0xEB8, 0xEB9, 118⟩, ⟨0xEBA, 0xEBA, 9⟩,
    ⟨0xEC8, 0xECB, 122⟩, ⟨0xF18, 0xF19, 220⟩, ⟨0xF35, 0xF35, 220⟩, ⟨0xF37, 0xF37, 220⟩,
    ⟨0xF39, 0xF39, 216⟩, ⟨0xF71, 0xF71, 129⟩, ⟨0xF72, 0xF72, 130⟩, ⟨0xF74, 0xF74, 132⟩,
    ⟨0xF7A, 0xF7D, 130⟩, ⟨0xF80, 0xF80, 130⟩, ⟨0xF82, 0xF83, 230⟩, ⟨0xF84, 0xF84, 9⟩,
    ⟨0xF86, 0xF87, 230⟩, ⟨0xFC6, 0xFC6, 220⟩, ⟨0x1037, 0x1037, 7⟩, ⟨0x1039, 0x103A, 9⟩,
    ⟨0x108D, 0x108D, 220⟩, ⟨0x135D, 0x135F, 230⟩, ⟨0x1714, 0x1715, 9⟩, ⟨0x1734, 0x1734, 9⟩,
    ⟨0x17D2, 0x17D2, 9⟩, ⟨0x17DD, 0x17DD, 230⟩, ⟨0x18A9, 0x18A9, 228⟩, ⟨0x1939, 0x1939, 222⟩,
    ⟨0x193A, 0x193A, 230⟩, ⟨0x193B, 0x193B, 220⟩, ⟨0x1A17, 0x1A17, 230⟩, ⟨0x1A18, 0x1A18, 220⟩,
    ⟨0x1A60, 0x1A60, 9⟩, ⟨0x1A75, 0x1A7C, 230⟩, ⟨0x1A7F, 0x1A7F, 220⟩, ⟨0x1AB0, 0x1AB4, 230⟩,
    ⟨0x1AB5, 0x1ABA, 220⟩, ⟨0x1ABB, 0x1ABC, 230⟩, ⟨0x1ABD, 0x1ABD, 220⟩, ⟨0x1ABF, 0x1AC0, 220⟩,
    ⟨0x1AC1, 0x1AC2, 230⟩, ⟨0x1AC3, 0x1AC4, 220⟩, ⟨0x1AC5, 0x1AC9, 230⟩, ⟨0x1ACA, 0x1ACA, 220⟩,
    ⟨0x1ACB, 0x1ADC, 230⟩, ⟨0x1ADD, 0x1ADD, 220⟩, ⟨0x1AE0, 0x1AE5, 230⟩, ⟨0x1AE6, 0x1AE6, 220⟩,
    ⟨0x1AE7, 0x1AEA, 230⟩, ⟨0x1AEB, 0x1AEB, 234⟩, ⟨0x1B34, 0x1B34, 7⟩, ⟨0x1B44, 0x1B44, 9⟩,
    ⟨0x1B6B, 0x1B6B, 230⟩, ⟨0x1B6C, 0x1B6C, 220⟩, ⟨0x1B6D, 0x1B73, 230⟩, ⟨0x1BAA, 0x1BAB, 9⟩,
    ⟨0x1BE6, 0x1BE6, 7⟩, ⟨0x1BF2, 0x1BF3, 9⟩, ⟨0x1C37, 0x1C37, 7⟩, ⟨0x1CD0, 0x1CD2, 230⟩,
    ⟨0x1CD4, 0x1CD4, 1⟩, ⟨0x1CD5, 0x1CD9, 220⟩, ⟨0x1CDA, 0x1CDB, 230⟩, ⟨0x1CDC, 0x1CDF, 220⟩,
    ⟨0x1CE0, 0x1CE0, 230⟩, ⟨0x1CE2, 0x1CE8, 1⟩, ⟨0x1CED, 0x1CED, 220⟩, ⟨0x1CF4, 0x1CF4, 230⟩,
    ⟨0x1CF8, 0x1CF9, 230⟩, ⟨0x1DC0, 0x1DC1, 230⟩, ⟨0x1DC2, 0x1DC2, 220⟩, ⟨0x1DC3, 0x1DC9, 230⟩,
    ⟨0x1DCA, 0x1DCA, 220⟩, ⟨0x1DCB, 0x1DCC, 230⟩, ⟨0x1DCD, 0x1DCD, 234⟩, ⟨0x1DCE, 0x1DCE, 214⟩,
    ⟨0x1DCF, 0x1DCF, 220⟩, ⟨0x1DD0, 0x1DD0, 202⟩, ⟨0x1DD1, 0x1DF5, 230⟩, ⟨0x1DF6, 0x1DF6, 232⟩,
    ⟨0x1DF7, 0x1DF8, 228⟩, ⟨0x1DF9, 0x1DF9, 220⟩, ⟨0x1DFA, 0x1DFA, 218⟩, ⟨0x1DFB, 0x1DFB, 230⟩,
    ⟨0x1DFC, 0x1DFC, 233⟩, ⟨0x1DFD, 0x1DFD, 220⟩, ⟨0x1DFE, 0x1DFE, 230⟩, ⟨0x1DFF, 0x1DFF, 220⟩,
    ⟨0x20D0, 0x20D1, 230⟩, ⟨0x20D2, 0x20D3, 1⟩, ⟨0x20D4, 0x20D7, 230⟩, ⟨0x20D8, 0x20DA, 1⟩,
    ⟨0x20DB, 0x20DC, 230⟩, ⟨0x20E1, 0x20E1, 230⟩, ⟨0x20E5, 0x20E6, 1⟩, ⟨0x20E7, 0x20E7, 230⟩,
    ⟨0x20E8, 0x20E8, 220⟩, ⟨0x20E9, 0x20E9, 230⟩, ⟨0x20EA, 0x20EB, 1⟩, ⟨0x20EC, 0x20EF, 220⟩,
    ⟨0x20F0, 0x20F0, 230⟩, ⟨0x2CEF, 0x2CF1, 230⟩, ⟨0x2D7F, 0x2D7F, 9⟩, ⟨0x2DE0, 0x2DFF, 230⟩,
    ⟨0x302A, 0x302A, 218⟩, ⟨0x302B, 0x302B, 228⟩, ⟨0x302C, 0x302C, 232⟩, ⟨0x302D, 0x302D, 222⟩,
    ⟨0x302E, 0x302F, 224⟩, ⟨0x3099, 0x309A, 8⟩, ⟨0xA66F, 0xA66F, 230⟩, ⟨0xA674, 0xA67D, 230⟩,
    ⟨0xA69E, 0xA69F, 230⟩, ⟨0xA6F0, 0xA6F1, 230⟩, ⟨0xA806, 0xA806, 9⟩, ⟨0xA82C, 0xA82C, 9⟩,
    ⟨0xA8C4, 0xA8C4, 9⟩, ⟨0xA8E0, 0xA8F1, 230⟩, ⟨0xA92B, 0xA92D, 220⟩, ⟨0xA953, 0xA953, 9⟩,
    ⟨0xA9B3, 0xA9B3, 7⟩, ⟨0xA9C0, 0xA9C0, 9⟩, ⟨0xAAB0, 0xAAB0, 230⟩, ⟨0xAAB2, 0xAAB3, 230⟩,
    ⟨0xAAB4, 0xAAB4, 220⟩, ⟨0xAAB7, 0xAAB8, 230⟩, ⟨0xAABE, 0xAABF, 230⟩, ⟨0xAAC1, 0xAAC1, 230⟩,
    ⟨0xAAF6, 0xAAF6, 9⟩, ⟨0xABED, 0xABED, 9⟩, ⟨0xFB1E, 0xFB1E, 26⟩, ⟨0xFE20, 0xFE26, 230⟩,
    ⟨0xFE27, 0xFE2D, 220⟩, ⟨0xFE2E, 0xFE2F, 230⟩, ⟨0x101FD, 0x101FD, 220⟩,
    ⟨0x102E0, 0x102E0, 220⟩, ⟨0x10376, 0x1037A, 230⟩, ⟨0x10A0D, 0x10A0D, 220⟩,
    ⟨0x10A0F, 0x10A0F, 230⟩, ⟨0x10A38, 0x10A38, 230⟩, ⟨0x10A39, 0x10A39, 1⟩,
    ⟨0x10A3A, 0x10A3A, 220⟩, ⟨0x10A3F, 0x10A3F, 9⟩, ⟨0x10AE5, 0x10AE5, 230⟩,
    ⟨0x10AE6, 0x10AE6, 220⟩, ⟨0x10D24, 0x10D27, 230⟩, ⟨0x10D69, 0x10D6D, 230⟩,
    ⟨0x10EAB, 0x10EAC, 230⟩, ⟨0x10EFA, 0x10EFB, 220⟩, ⟨0x10EFD, 0x10EFF, 220⟩,
    ⟨0x10F46, 0x10F47, 220⟩, ⟨0x10F48, 0x10F4A, 230⟩, ⟨0x10F4B, 0x10F4B, 220⟩,
    ⟨0x10F4C, 0x10F4C, 230⟩, ⟨0x10F4D, 0x10F50, 220⟩, ⟨0x10F82, 0x10F82, 230⟩,
    ⟨0x10F83, 0x10F83, 220⟩, ⟨0x10F84, 0x10F84, 230⟩, ⟨0x10F85, 0x10F85, 220⟩,
    ⟨0x11046, 0x11046, 9⟩, ⟨0x11070, 0x11070, 9⟩, ⟨0x1107F, 0x1107F, 9⟩, ⟨0x110B9, 0x110B9, 9⟩,
    ⟨0x110BA, 0x110BA, 7⟩, ⟨0x11100, 0x11102, 230⟩, ⟨0x11133, 0x11134, 9⟩, ⟨0x11173, 0x11173, 7⟩,
    ⟨0x111C0, 0x111C0, 9⟩, ⟨0x111CA, 0x111CA, 7⟩, ⟨0x11235, 0x11235, 9⟩, ⟨0x11236, 0x11236, 7⟩,
    ⟨0x112E9, 0x112E9, 7⟩, ⟨0x112EA, 0x112EA, 9⟩, ⟨0x1133B, 0x1133C, 7⟩, ⟨0x1134D, 0x1134D, 9⟩,
    ⟨0x11366, 0x11374, 230⟩, ⟨0x113CE, 0x113D0, 9⟩, ⟨0x11442, 0x11442, 9⟩, ⟨0x11446, 0x11446, 7⟩,
    ⟨0x1145E, 0x1145E, 230⟩, ⟨0x114C2, 0x114C2, 9⟩, ⟨0x114C3, 0x114C3, 7⟩, ⟨0x115BF, 0x115BF, 9⟩,
    ⟨0x115C0, 0x115C0, 7⟩, ⟨0x1163F, 0x1163F, 9⟩, ⟨0x116B6, 0x116B6, 9⟩, ⟨0x116B7, 0x116B7, 7⟩,
    ⟨0x1172B, 0x1172B, 9⟩, ⟨0x11839, 0x11839, 9⟩, ⟨0x1183A, 0x1183A, 7⟩, ⟨0x1193D, 0x1193E, 9⟩,
    ⟨0x11943, 0x11943, 7⟩, ⟨0x119E0, 0x119E0, 9⟩, ⟨0x11A34, 0x11A34, 9⟩, ⟨0x11A47, 0x11A47, 9⟩,
    ⟨0x11A99, 0x11A99, 9⟩, ⟨0x11C3F, 0x11C3F, 9⟩, ⟨0x11D42, 0x11D42, 7⟩, ⟨0x11D44, 0x11D45, 9⟩,
    ⟨0x11D97, 0x11D97, 9⟩, ⟨0x11F41, 0x11F42, 9⟩, ⟨0x1612F, 0x1612F, 9⟩, ⟨0x16AF0, 0x16AF4, 1⟩,
    ⟨0x16B30, 0x16B36, 230⟩, ⟨0x16FF0, 0x16FF1, 6⟩, ⟨0x1BC9E, 0x1BC9E, 1⟩,
    ⟨0x1D165, 0x1D166, 216⟩, ⟨0x1D167, 0x1D169, 1⟩, ⟨0x1D16D, 0x1D16D, 226⟩,
    ⟨0x1D16E, 0x1D172, 216⟩, ⟨0x1D17B, 0x1D182, 220⟩, ⟨0x1D185, 0x1D189, 230⟩,
    ⟨0x1D18A, 0x1D18B, 220⟩, ⟨0x1D1AA, 0x1D1AD, 230⟩, ⟨0x1D242, 0x1D244, 230⟩,
    ⟨0x1E000, 0x1E08F, 230⟩, ⟨0x1E130, 0x1E136, 230⟩, ⟨0x1E2AE, 0x1E2AE, 230⟩,
    ⟨0x1E2EC, 0x1E2EF, 230⟩, ⟨0x1E4EC, 0x1E4ED, 232⟩, ⟨0x1E4EE, 0x1E4EE, 220⟩,
    ⟨0x1E4EF, 0x1E4EF, 230⟩, ⟨0x1E5EE, 0x1E5EE, 230⟩, ⟨0x1E5EF, 0x1E5EF, 220⟩,
    ⟨0x1E6E3, 0x1E6E3, 230⟩, ⟨0x1E6E6, 0x1E6E6, 230⟩, ⟨0x1E6EE, 0x1E6EF, 230⟩,
    ⟨0x1E6F5, 0x1E6F5, 230⟩, ⟨0x1E8D0, 0x1E8D6, 220⟩, ⟨0x1E944, 0x1E949, 230⟩,
    ⟨0x1E94A, 0x1E94A, 7⟩]

/-- The pair that each composed character stands for. -/
def pairListings : List Listing :=
  [
    ⟨0xC0, "41+300 41+301 41+302 41+303 41+308 41+30A - 43+327 45+300 45+301 45+302 45+308
      49+300 49+301 49+302 49+308 - 4E+303 4F+300 4F+301 4F+302 4F+303 4F+308 - - 55+300 55+301
      55+302 55+308 59+301 - - 61+300 61+301 61+302 61+303 61+308 61+30A - 63+327 65+300 65+301
      65+302 65+308 69+300 69+301 69+302 69+308 - 6E+303 6F+300 6F+301 6F+302 6F+303 6F+308 - -
      75+300 75+301 75+302 75+308 79+301 - 79+308 41+304 61+304 41+306 61+306 41+328 61+328
      43+301 63+301 43+302 63+302 43+307 63+307 43+30C 63+30C 44+30C 64+30C - - 45+304 65+304
      45+306 65+306 45+307 65+307 45+328 65+328 45+30C 65+30C 47+302 67+302 47+306 67+306
      47+307 67+307 47+327 67+327 48+302 68+302 - - 49+303 69+303 49+304 69+304 49+306 69+306
      49+328 69+328 49+307 - - - 4A+302 6A+302 4B+327 6B+327 - 4C+301 6C+301 4C+327 6C+327
      4C+30C 6C+30C - - - - 4E+301 6E+301 4E+327 6E+327 4E+30C 6E+30C - - - 4F+304 6F+304
      4F+306 6F+306 4F+30B 6F+30B - - 52+301 72+301 52+327 72+327 52+30C 72+30C 53+301 73+301
      53+302 73+302 53+327 73+327 53+30C 73+30C 54+327 74+327 54+30C 74+30C - - 55+303 75+303
      55+304 75+304 55+306 75+306 55+30A 75+30A 55+30B 75+30B 55+328 75+328 57+302 77+302
      59+302 79+302 59+308 5A+301 7A+301 5A+307 7A+307 5A+30C 7A+30C"⟩,
    ⟨0x1A0, "4F+31B 6F+31B"⟩,
    ⟨0x1AF, "55+31B 75+31B"⟩,
    ⟨0x1CD, "41+30C 61+30C 49+30C 69+30C 4F+30C 6F+30C 55+30C 75+30C DC+304 FC+304 DC+301
      FC+301 DC+30C FC+30C DC+300 FC+300 - C4+304 E4+304 226+304 227+304 C6+304 E6+304 - -
      47+30C 67+30C 4B+30C 6B+30C 4F+328 6F+328 1EA+304 1EB+304 1B7+30C 292+30C 6A+30C - - -
      47+301 67+301 - - 4E+300 6E+300 C5+301 E5+301 C6+301 E6+301 D8+301 F8+301 41+30F 61+30F
      41+311 61+311 45+30F 65+30F 45+311 65+311 49+30F 69+30F 49+311 69+311 4F+30F 6F+30F
      4F+311 6F+311 52+30F 72+30F 52+311 72+311 55+30F 75+30F 55+311 75+311 53+326 73+326
      54+326 74+326 - - 48+30C 68+30C"⟩,
    ⟨0x226, "41+307 61+307 45+327 65+327 D6+304 F6+304 D5+304 F5+304 4F+307 6F+307 22E+304
      22F+304 59+304 79+304"⟩,
    ⟨0x385, "A8+301 391+301 - 395+301 397+301 399+301 - 39F+301 - 3A5+301 3A9+301 3CA+301"⟩,
    ⟨0x3AA, "399+308 3A5+308 3B1+301 3B5+301 3B7+301 3B9+301 3CB+301"⟩,
    ⟨0x3CA, "3B9+308 3C5+308 3BF+301 3C5+301 3C9+301 - - - - 3D2+301 3D2+308"⟩,
    ⟨0x400, "415+300 415+308 - 413+301 - - - 406+308 - - - - 41A+301 418+300 423+306"⟩,
    ⟨0x419, "418+306"⟩,
    ⟨0x439, "438+306"⟩,
    ⟨0x450, "435+300 435+308 - 433+301 - - - 456+308 - - - - 43A+301 438+300 443+306"⟩,
    ⟨0x476, "474+30F 475+30F"⟩,
    ⟨0x4C1, "416+306 436+306"⟩,
    ⟨0x4D0, "410+306 430+306 410+308 430+308 - - 415+306 435+306 - - 4D8+308 4D9+308 416+308
      436+308 417+308 437+308 - - 418+304 438+304 418+308 438+308 41E+308 43E+308 - - 4E8+308
      4E9+308 42D+308 44D+308 423+304 443+304 423+308 443+308 423+30B 443+30B 427+308 447+308 -
      - 42B+308 44B+308"⟩,
    ⟨0x622, "627+653 627+654 648+654 627+655 64A+654"⟩,
    ⟨0x6C0, "6D5+654 - 6C1+654"⟩,
    ⟨0x6D3, "6D2+654"⟩,
    ⟨0x929, "928+93C"⟩,
    ⟨0x931, "930+93C - - 933+93C"⟩,
    ⟨0x9CB, "9C7+9BE 9C7+9D7"⟩,
    ⟨0xB48, "B47+B56 - - B47+B3E B47+B57"⟩,
    ⟨0xB94, "B92+BD7"⟩,
    ⟨0xBCA, "BC6+BBE BC7+BBE BC6+BD7"⟩,
    ⟨0xC48, "C46+C56"⟩,
    ⟨0xCC0, "CBF+CD5"⟩,
    ⟨0xCC7, "CC6+CD5 CC6+CD6 - CC6+CC2 CCA+CD5"⟩,
    ⟨0xD4A, "D46+D3E D47+D3E D46+D57"⟩,
    ⟨0xDDA, "DD9+DCA - DD9+DCF DDC+DCA DD9+DDF"⟩,
    ⟨0x1026, "1025+102E"⟩,
    ⟨0x1B06, "1B05+1B35 - 1B07+1B35 - 1B09+1B35 - 1B0B+1B35 - 1B0D+1B35 - - - 1B11+1B35"⟩,
    ⟨0x1B3B, "1B3A+1B35 - 1B3C+1B35 - - 1B3E+1B35 1B3F+1B35 - 1B42+1B35"⟩,
    ⟨0x1E00, "41+325 61+325 42+307 62+307 42+323 62+323 42+331 62+331 C7+301 E7+301 44+307
      64+307 44+323 64+323 44+331 64+331 44+327 64+327 44+32D 64+32D 112+300 113+300 112+301
      113+301 45+32D 65+32D 45+330 65+330 228+306 229+306 46+307 66+307 47+304 67+304 48+307
      68+307 48+323 68+323 48+308 68+308 48+327 68+327 48+32E 68+32E 49+330 69+330 CF+301
      EF+301 4B+301 6B+301 4B+323 6B+323 4B+331 6B+331 4C+323 6C+323 1E36+304 1E37+304 4C+331
      6C+331 4C+32D 6C+32D 4D+301 6D+301 4D+307 6D+307 4D+323 6D+323 4E+307 6E+307 4E+323
      6E+323 4E+331 6E+331 4E+32D 6E+32D D5+301 F5+301 D5+308 F5+308 14C+300 14D+300 14C+301
      14D+301 50+301 70+301 50+307 70+307 52+307 72+307 52+323 72+323 1E5A+304 1E5B+304 52+331
      72+331 53+307 73+307 53+323 73+323 15A+307 15B+307 160+307 161+307 1E62+307 1E63+307
      54+307 74+307 54+323 74+323 54+331 74+331 54+32D 74+32D 55+324 75+324 55+330 75+330
      55+32D 75+32D 168+301 169+301 16A+308 16B+308 56+303 76+303 56+323 76+323 57+300 77+300
      57+301 77+301 57+308 77+308 57+307 77+307 57+323 77+323 58+307 78+307 58+308 78+308
      59+307 79+307 5A+302 7A+302 5A+323 7A+323 5A+331 7A+331 68+331 74+308 77+30A 79+30A -
      17F+307 - - - - 41+323 61+323 41+309 61+309 C2+301 E2+301 C2+300 E2+300 C2+309 E2+309
      C2+303 E2+303 1EA0+302 1EA1+302 102+301 103+301 102+300 103+300 102+309 103+309 102+303
      103+303 1EA0+306 1EA1+306 45+323 65+323 45+309 65+309 45+303 65+303 CA+301 EA+301 CA+300
      EA+300 CA+309 EA+309 CA+303 EA+303 1EB8+302 1EB9+302 49+309 69+309 49+323 69+323 4F+323
      6F+323 4F+309 6F+309 D4+301 F4+301 D4+300 F4+300 D4+309 F4+309 D4+303 F4+303 1ECC+302
      1ECD+302 1A0+301 1A1+301 1A0+300 1A1+300 1A0+309 1A1+309 1A0+303 1A1+303 1A0+323 1A1+323
      55+323 75+323 55+309 75+309 1AF+301 1B0+301 1AF+300 1B0+300 1AF+309 1B0+309 1AF+303
      1B0+303 1AF+323 1B0+323 59+300 79+300 59+323 79+323 59+309 79+309 59+303 79+303"⟩,
    ⟨0x1F00, "3B1+313 3B1+314 1F00+300 1F01+300 1F00+301 1F01+301 1F00+342 1F01+342 391+313
      391+314 1F08+300 1F09+300 1F08+301 1F09+301 1F08+342 1F09+342 3B5+313 3B5+314 1F10+300
      1F11+300 1F10+301 1F11+301 - - 395+313 395+314 1F18+300 1F19+300 1F18+301 1F19+301 - -
      3B7+313 3B7+314 1F20+300 1F21+300 1F20+301 1F21+301 1F20+342 1F21+342 397+313 397+314
      1F28+300 1F29+300 1F28+301 1F29+301 1F28+342 1F29+342 3B9+313 3B9+314 1F30+300 1F31+300
      1F30+301 1F31+301 1F30+342 1F31+342 399+313 399+314 1F38+300 1F39+300 1F38+301 1F39+301
      1F38+342 1F39+342 3BF+313 3BF+314 1F40+300 1F41+300 1F40+301 1F41+301 - - 39F+313 39F+314
      1F48+300 1F49+300 1F48+301 1F49+301 - - 3C5+313 3C5+314 1F50+300 1F51+300 1F50+301
      1F51+301 1F50+342 1F51+342 - 3A5+314 - 1F59+300 - 1F59+301 - 1F59+342 3C9+313 3C9+314
      1F60+300 1F61+300 1F60+301 1F61+301 1F60+342 1F61+342 3A9+313 3A9+314 1F68+300 1F69+300
      1F68+301 1F69+301 1F68+342 1F69+342 3B1+300 - 3B5+300 - 3B7+300 - 3B9+300 - 3BF+300 -
      3C5+300 - 3C9+300 - - - 1F00+345 1F01+345 1F02+345 1F03+345 1F04+345 1F05+345 1F06+345
      1F07+345 1F08+345 1F09+345 1F0A+345 1F0B+345 1F0C+345 1F0D+345 1F0E+345 1F0F+345 1F20+345
      1F21+345 1F22+345 1F23+345 1F24+345 1F25+345 1F26+345 1F27+345 1F28+345 1F29+345 1F2A+345
      1F2B+345 1F2C+345 1F2D+345 1F2E+345 1F2F+345 1F60+345 1F61+345 1F62+345 1F63+345 1F64+345
      1F65+345 1F66+345 1F67+345 1F68+345 1F69+345 1F6A+345 1F6B+345 1F6C+345 1F6D+345 1F6E+345
      1F6F+345 3B1+306 3B1+304 1F70+345 3B1+345 3AC+345 - 3B1+342 1FB6+345 391+306 391+304
      391+300 - 391+345 - - - - A8+342 1F74+345 3B7+345 3AE+345 - 3B7+342 1FC6+345 395+300 -
      397+300 - 397+345 1FBF+300 1FBF+301 1FBF+342 3B9+306 3B9+304 3CA+300 - - - 3B9+342
      3CA+342 399+306 399+304 399+300 - - 1FFE+300 1FFE+301 1FFE+342 3C5+306 3C5+304 3CB+300 -
      3C1+313 3C1+314 3C5+342 3CB+342 3A5+306 3A5+304 3A5+300 - 3A1+314 A8+300 - - - - 1F7C+345
      3C9+345 3CE+345 - 3C9+342 1FF6+345 39F+300 - 3A9+300 - 3A9+345"⟩,
    ⟨0x219A, "2190+338 2192+338"⟩,
    ⟨0x21AE, "2194+338"⟩,
    ⟨0x21CD, "21D0+338 21D4+338 21D2+338"⟩,
    ⟨0x2204, "2203+338 - - - - 2208+338 - - 220B+338"⟩,
    ⟨0x2224, "2223+338 - 2225+338"⟩,
    ⟨0x2241, "223C+338 - - 2243+338 - - 2245+338 - 2248+338"⟩,
    ⟨0x2260, "3D+338 - 2261+338"⟩,
    ⟨0x226D, "224D+338 3C+338 3E+338 2264+338 2265+338 - - 2272+338 2273+338 - - 2276+338
      2277+338"⟩,
    ⟨0x2280, "227A+338 227B+338 - - 2282+338 2283+338 - - 2286+338 2287+338"⟩,
    ⟨0x22AC, "22A2+338 22A8+338 22A9+338 22AB+338"⟩,
    ⟨0x22E0, "227C+338 227D+338 2291+338 2292+338"⟩,
    ⟨0x22EA, "22B2+338 22B3+338 22B4+338 22B5+338"⟩,
    ⟨0x304C, "304B+3099 - 304D+3099 - 304F+3099 - 3051+3099 - 3053+3099 - 3055+3099 - 3057+3099
      - 3059+3099 - 305B+3099 - 305D+3099 - 305F+3099 - 3061+3099 - - 3064+3099 - 3066+3099 -
      3068+3099"⟩,
    ⟨0x3070, "306F+3099 306F+309A - 3072+3099 3072+309A - 3075+3099 3075+309A - 3078+3099
      3078+309A - 307B+3099 307B+309A"⟩,
    ⟨0x3094, "3046+3099"⟩,
    ⟨0x309E, "309D+3099"⟩,
    ⟨0x30AC, "30AB+3099 - 30AD+3099 - 30AF+3099 - 30B1+3099 - 30B3+3099 - 30B5+3099 - 30B7+3099
      - 30B9+3099 - 30BB+3099 - 30BD+3099 - 30BF+3099 - 30C1+3099 - - 30C4+3099 - 30C6+3099 -
      30C8+3099"⟩,
    ⟨0x30D0, "30CF+3099 30CF+309A - 30D2+3099 30D2+309A - 30D5+3099 30D5+309A - 30D8+3099
      30D8+309A - 30DB+3099 30DB+309A"⟩,
    ⟨0x30F4, "30A6+3099 - - 30EF+3099 30F0+3099 30F1+3099 30F2+3099 - - - 30FD+3099"⟩,
    ⟨0x105C9, "105D2+307"⟩,
    ⟨0x105E4, "105DA+307"⟩,
    ⟨0x1109A, "11099+110BA - 1109B+110BA"⟩,
    ⟨0x110AB, "110A5+110BA"⟩,
    ⟨0x1112E, "11131+11127 11132+11127"⟩,
    ⟨0x1134B, "11347+1133E 11347+11357"⟩,
    ⟨0x11383, "11382+113C9 - 11384+113BB"⟩,
    ⟨0x1138E, "1138B+113C2 - - 11390+113C9"⟩,
    ⟨0x113C5, "113C2+113C2 - 113C2+113B8 113C2+113C9"⟩,
    ⟨0x114BB, "114B9+114BA 114B9+114B0 - 114B9+114BD"⟩,
    ⟨0x115BA, "115B8+115AF 115B9+115AF"⟩,
    ⟨0x11938, "11935+11930"⟩,
    ⟨0x16121, "1611E+1611E 1611E+16129 1611E+1611F 16129+1611F 1611E+16120 16121+1611F
      16122+1611F 16121+16120"⟩,
    ⟨0x16D68, "16D67+16D67 16D63+16D67 16D69+16D67"⟩]

/-- How strongly a character clings to the letter before it; zero for letters. -/
def combiningClass (c : Char) : Nat :=
  match classRuns.find? fun r => r.first ≤ c.toNat && c.toNat ≤ r.last with
  | some r => r.strength
  | none => 0

/-! ## Pairs -/

/-- Lead, vowel and tail of a syllable; the tail is zero if there is none. -/
def hangulParts (n : Nat) : List Nat :=
  let i := n - 0xAC00
  let tail := i % 28
  [0x1100 + i / 588, 0x1161 + i % 588 / 28] ++ if tail = 0 then [] else [0x11A7 + tail]

def isHangulSyllable (n : Nat) : Bool := 0xAC00 ≤ n && n ≤ 0xD7A3

/-- The letter and the marks that a character is composed of. Pairs nest at most three deep. -/
def decomposed (fuel n : Nat) : List Nat :=
  match fuel with
  | 0 => [n]
  | fuel + 1 =>
    if isHangulSyllable n then hangulParts n
    else
      match Listing.image? pairListings n with
      | some [first, mark] => decomposed fuel first ++ [mark]
      | _ => [n]

/-- Every pair with the character that it composes to. -/
def compositions : List (Nat × List Nat) := Listing.entries pairListings

/-- The one character that two composed characters are. -/
def pairComposed? (a b : Nat) : Option Nat :=
  if 0x1100 ≤ a && a ≤ 0x1112 && 0x1161 ≤ b && b ≤ 0x1175 then
    some (0xAC00 + 588 * (a - 0x1100) + 28 * (b - 0x1161))
  else if isHangulSyllable a && (a - 0xAC00) % 28 == 0 && 0x11A8 ≤ b && b ≤ 0x11C2 then
    some (a + (b - 0x11A7))
  else (compositions.find? fun entry => entry.2 == [a, b]).map (·.1)

/-! ## Order of marks -/

/-- Puts a mark after all marks that are not stronger. -/
def insertMark (mark : Char) (marks : List Char) : List Char :=
  let weaker (c : Char) : Bool := combiningClass c ≤ combiningClass mark
  marks.takeWhile weaker ++ mark :: marks.dropWhile weaker

/-- The text with the marks after each letter in order; `marks` are those since the last letter. -/
def orderMarks (marks : List Char) : List Char → List Char
  | [] => marks
  | c :: rest =>
    if combiningClass c = 0 then marks ++ c :: orderMarks [] rest
    else orderMarks (insertMark c marks) rest

/-! ## Composition -/

/-- Composes a text in order: `letter` is the last letter and `marks` are those after it that were
not joined to it, the last one first. -/
def composeFrom (letter : Option Char) (marks : List Char) : List Char → List Char
  | [] => letter.toList ++ marks.reverse
  | c :: rest =>
    match letter with
    | none =>
      if combiningClass c = 0 then composeFrom (some c) [] rest else c :: composeFrom none [] rest
    | some l =>
      let isFree := match marks with
        | [] => true
        | mark :: _ => combiningClass mark < combiningClass c
      match if isFree then pairComposed? l.toNat c.toNat else none with
      | some n => composeFrom (some (Char.ofNat n)) marks rest
      | none =>
        if combiningClass c = 0 then l :: marks.reverse ++ composeFrom (some c) [] rest
        else composeFrom (some l) (c :: marks) rest

/-- The composed form of a text. -/
def composed (cs : List Char) : List Char :=
  composeFrom none [] (orderMarks [] (cs.flatMap fun c => (decomposed 4 c.toNat).map Char.ofNat))

end CarbonIntensity.Text
