import EventFeed.Text.CodeSet
import EventFeed.Text.Table

/-
  This file defines the classes of characters that the rules
  for labels of a domain name ask for: marks, the direction
  of writing and the joining of letters.

  Key definitions include:
    * `Domain.marks`
    * `Domain.Direction`
    * `Domain.direction`
    * `Domain.Joining`
    * `Domain.joining`
-/

------------------------------------------------------------
-- Marks
------------------------------------------------------------

namespace EventFeed

namespace Domain

/- The characters that belong to the one before them. -/
def marks : Text.CodeSet where
  bounds := #[
    0x300, 0x370, 0x483, 0x48a, 0x591, 0x5be, 0x5bf, 0x5c0, 0x5c1,
    0x5c3, 0x5c4, 0x5c6, 0x5c7, 0x5c8, 0x610, 0x61b, 0x64b, 0x660,
    0x670, 0x671, 0x6d6, 0x6dd, 0x6df, 0x6e5, 0x6e7, 0x6e9, 0x6ea,
    0x6ee, 0x711, 0x712, 0x730, 0x74b, 0x7a6, 0x7b1, 0x7eb, 0x7f4,
    0x7fd, 0x7fe, 0x816, 0x81a, 0x81b, 0x824, 0x825, 0x828, 0x829,
    0x82e, 0x859, 0x85c, 0x897, 0x8a0, 0x8ca, 0x8e2, 0x8e3, 0x904,
    0x93a, 0x93d, 0x93e, 0x950, 0x951, 0x958, 0x962, 0x964, 0x981,
    0x984, 0x9bc, 0x9bd, 0x9be, 0x9c5, 0x9c7, 0x9c9, 0x9cb, 0x9ce,
    0x9d7, 0x9d8, 0x9e2, 0x9e4, 0x9fe, 0x9ff, 0xa01, 0xa04, 0xa3c,
    0xa3d, 0xa3e, 0xa43, 0xa47, 0xa49, 0xa4b, 0xa4e, 0xa51, 0xa52,
    0xa70, 0xa72, 0xa75, 0xa76, 0xa81, 0xa84, 0xabc, 0xabd, 0xabe,
    0xac6, 0xac7, 0xaca, 0xacb, 0xace, 0xae2, 0xae4, 0xafa, 0xb00,
    0xb01, 0xb04, 0xb3c, 0xb3d, 0xb3e, 0xb45, 0xb47, 0xb49, 0xb4b,
    0xb4e, 0xb55, 0xb58, 0xb62, 0xb64, 0xb82, 0xb83, 0xbbe, 0xbc3,
    0xbc6, 0xbc9, 0xbca, 0xbce, 0xbd7, 0xbd8, 0xc00, 0xc05, 0xc3c,
    0xc3d, 0xc3e, 0xc45, 0xc46, 0xc49, 0xc4a, 0xc4e, 0xc55, 0xc57,
    0xc62, 0xc64, 0xc81, 0xc84, 0xcbc, 0xcbd, 0xcbe, 0xcc5, 0xcc6,
    0xcc9, 0xcca, 0xcce, 0xcd5, 0xcd7, 0xce2, 0xce4, 0xcf3, 0xcf4,
    0xd00, 0xd04, 0xd3b, 0xd3d, 0xd3e, 0xd45, 0xd46, 0xd49, 0xd4a,
    0xd4e, 0xd57, 0xd58, 0xd62, 0xd64, 0xd81, 0xd84, 0xdca, 0xdcb,
    0xdcf, 0xdd5, 0xdd6, 0xdd7, 0xdd8, 0xde0, 0xdf2, 0xdf4, 0xe31,
    0xe32, 0xe34, 0xe3b, 0xe47, 0xe4f, 0xeb1, 0xeb2, 0xeb4, 0xebd,
    0xec8, 0xecf, 0xf18, 0xf1a, 0xf35, 0xf36, 0xf37, 0xf38, 0xf39,
    0xf3a, 0xf3e, 0xf40, 0xf71, 0xf85, 0xf86, 0xf88, 0xf8d, 0xf98,
    0xf99, 0xfbd, 0xfc6, 0xfc7, 0x102b, 0x103f, 0x1056, 0x105a,
    0x105e, 0x1061, 0x1062, 0x1065, 0x1067, 0x106e, 0x1071,
    0x1075, 0x1082, 0x108e, 0x108f, 0x1090, 0x109a, 0x109e,
    0x135d, 0x1360, 0x1712, 0x1716, 0x1732, 0x1735, 0x1752,
    0x1754, 0x1772, 0x1774, 0x17b4, 0x17d4, 0x17dd, 0x17de,
    0x180b, 0x180e, 0x180f, 0x1810, 0x1885, 0x1887, 0x18a9,
    0x18aa, 0x1920, 0x192c, 0x1930, 0x193c, 0x1a17, 0x1a1c,
    0x1a55, 0x1a5f, 0x1a60, 0x1a7d, 0x1a7f, 0x1a80, 0x1ab0,
    0x1acf, 0x1b00, 0x1b05, 0x1b34, 0x1b45, 0x1b6b, 0x1b74,
    0x1b80, 0x1b83, 0x1ba1, 0x1bae, 0x1be6, 0x1bf4, 0x1c24,
    0x1c38, 0x1cd0, 0x1cd3, 0x1cd4, 0x1ce9, 0x1ced, 0x1cee,
    0x1cf4, 0x1cf5, 0x1cf7, 0x1cfa, 0x1dc0, 0x1e00, 0x20d0,
    0x20f1, 0x2cef, 0x2cf2, 0x2d7f, 0x2d80, 0x2de0, 0x2e00,
    0x302a, 0x3030, 0x3099, 0x309b, 0xa66f, 0xa673, 0xa674,
    0xa67e, 0xa69e, 0xa6a0, 0xa6f0, 0xa6f2, 0xa802, 0xa803,
    0xa806, 0xa807, 0xa80b, 0xa80c, 0xa823, 0xa828, 0xa82c,
    0xa82d, 0xa880, 0xa882, 0xa8b4, 0xa8c6, 0xa8e0, 0xa8f2,
    0xa8ff, 0xa900, 0xa926, 0xa92e, 0xa947, 0xa954, 0xa980,
    0xa984, 0xa9b3, 0xa9c1, 0xa9e5, 0xa9e6, 0xaa29, 0xaa37,
    0xaa43, 0xaa44, 0xaa4c, 0xaa4e, 0xaa7b, 0xaa7e, 0xaab0,
    0xaab1, 0xaab2, 0xaab5, 0xaab7, 0xaab9, 0xaabe, 0xaac0,
    0xaac1, 0xaac2, 0xaaeb, 0xaaf0, 0xaaf5, 0xaaf7, 0xabe3,
    0xabeb, 0xabec, 0xabee, 0xfb1e, 0xfb1f, 0xfe00, 0xfe10,
    0xfe20, 0xfe30, 0x101fd, 0x101fe, 0x102e0, 0x102e1, 0x10376,
    0x1037b, 0x10a01, 0x10a04, 0x10a05, 0x10a07, 0x10a0c, 0x10a10,
    0x10a38, 0x10a3b, 0x10a3f, 0x10a40, 0x10ae5, 0x10ae7, 0x10d24,
    0x10d28, 0x10d69, 0x10d6e, 0x10eab, 0x10ead, 0x10efc, 0x10f00,
    0x10f46, 0x10f51, 0x10f82, 0x10f86, 0x11000, 0x11003, 0x11038,
    0x11047, 0x11070, 0x11071, 0x11073, 0x11075, 0x1107f, 0x11083,
    0x110b0, 0x110bb, 0x110c2, 0x110c3, 0x11100, 0x11103, 0x11127,
    0x11135, 0x11145, 0x11147, 0x11173, 0x11174, 0x11180, 0x11183,
    0x111b3, 0x111c1, 0x111c9, 0x111cd, 0x111ce, 0x111d0, 0x1122c,
    0x11238, 0x1123e, 0x1123f, 0x11241, 0x11242, 0x112df, 0x112eb,
    0x11300, 0x11304, 0x1133b, 0x1133d, 0x1133e, 0x11345, 0x11347,
    0x11349, 0x1134b, 0x1134e, 0x11357, 0x11358, 0x11362, 0x11364,
    0x11366, 0x1136d, 0x11370, 0x11375, 0x113b8, 0x113c1, 0x113c2,
    0x113c3, 0x113c5, 0x113c6, 0x113c7, 0x113cb, 0x113cc, 0x113d1,
    0x113d2, 0x113d3, 0x113e1, 0x113e3, 0x11435, 0x11447, 0x1145e,
    0x1145f, 0x114b0, 0x114c4, 0x115af, 0x115b6, 0x115b8, 0x115c1,
    0x115dc, 0x115de, 0x11630, 0x11641, 0x116ab, 0x116b8, 0x1171d,
    0x1172c, 0x1182c, 0x1183b, 0x11930, 0x11936, 0x11937, 0x11939,
    0x1193b, 0x1193f, 0x11940, 0x11941, 0x11942, 0x11944, 0x119d1,
    0x119d8, 0x119da, 0x119e1, 0x119e4, 0x119e5, 0x11a01, 0x11a0b,
    0x11a33, 0x11a3a, 0x11a3b, 0x11a3f, 0x11a47, 0x11a48, 0x11a51,
    0x11a5c, 0x11a8a, 0x11a9a, 0x11c2f, 0x11c37, 0x11c38, 0x11c40,
    0x11c92, 0x11ca8, 0x11ca9, 0x11cb7, 0x11d31, 0x11d37, 0x11d3a,
    0x11d3b, 0x11d3c, 0x11d3e, 0x11d3f, 0x11d46, 0x11d47, 0x11d48,
    0x11d8a, 0x11d8f, 0x11d90, 0x11d92, 0x11d93, 0x11d98, 0x11ef3,
    0x11ef7, 0x11f00, 0x11f02, 0x11f03, 0x11f04, 0x11f34, 0x11f3b,
    0x11f3e, 0x11f43, 0x11f5a, 0x11f5b, 0x13440, 0x13441, 0x13447,
    0x13456, 0x1611e, 0x16130, 0x16af0, 0x16af5, 0x16b30, 0x16b37,
    0x16f4f, 0x16f50, 0x16f51, 0x16f88, 0x16f8f, 0x16f93, 0x16fe4,
    0x16fe5, 0x16ff0, 0x16ff2, 0x1bc9d, 0x1bc9f, 0x1cf00, 0x1cf2e,
    0x1cf30, 0x1cf47, 0x1d165, 0x1d16a, 0x1d16d, 0x1d173, 0x1d17b,
    0x1d183, 0x1d185, 0x1d18c, 0x1d1aa, 0x1d1ae, 0x1d242, 0x1d245,
    0x1da00, 0x1da37, 0x1da3b, 0x1da6d, 0x1da75, 0x1da76, 0x1da84,
    0x1da85, 0x1da9b, 0x1daa0, 0x1daa1, 0x1dab0, 0x1e000, 0x1e007,
    0x1e008, 0x1e019, 0x1e01b, 0x1e022, 0x1e023, 0x1e025, 0x1e026,
    0x1e02b, 0x1e08f, 0x1e090, 0x1e130, 0x1e137, 0x1e2ae, 0x1e2af,
    0x1e2ec, 0x1e2f0, 0x1e4ec, 0x1e4f0, 0x1e5ee, 0x1e5f0, 0x1e8d0,
    0x1e8d7, 0x1e944, 0x1e94b, 0xe0100, 0xe01f0]

------------------------------------------------------------
-- Directions
------------------------------------------------------------

/- The classes of characters by direction of writing. -/
inductive Direction
  | other
  | left
  | right
  | arabicLetter
  | europeanNumber
  | europeanSeparator
  | commonSeparator
  | europeanTerminator
  | otherNeutral
  | boundaryNeutral
  | nonspacingMark
  | arabicNumber
deriving DecidableEq, Inhabited, Repr

namespace Direction

/- The class of a number in the table. -/
def ofCode : Nat → Direction
  | 1 => left
  | 2 => right
  | 3 => arabicLetter
  | 4 => europeanNumber
  | 5 => europeanSeparator
  | 6 => commonSeparator
  | 7 => europeanTerminator
  | 8 => otherNeutral
  | 9 => boundaryNeutral
  | 10 => nonspacingMark
  | 11 => arabicNumber
  | _ => other

end Direction

/- Where a class begins, and its number. -/
def directionText : String :=
  "
    0-9 9-0 e-9 1c-0 21-8 23-7 26-8 2b-5 2c-6 2d-5 2e-6 30-4 3a-6
    3b-8 41-1 5b-8 61-1 7b-8 7f-9 85-0 86-9 a0-6 a1-8 a2-7 a6-8
    aa-1 ab-8 ad-9 ae-8 b0-7 b2-4 b4-8 b5-1 b6-8 b9-4 ba-1 bb-8
    c0-1 d7-8 d8-1 f7-8 f8-1 2b9-8 2bb-1 2c2-8 2d0-1 2d2-8 2e0-1
    2e5-8 2ee-1 2ef-8 300-a 370-1 374-8 376-1 37e-8 37f-1 384-8
    386-1 387-8 388-1 3f6-8 3f7-1 483-a 48a-1 58a-8 58b-1 58d-8
    58f-7 590-2 591-a 5be-2 5bf-a 5c0-2 5c1-a 5c3-2 5c4-a 5c6-2
    5c7-a 5c8-2 600-b 606-8 608-3 609-7 60b-3 60c-6 60d-3 60e-8
    610-a 61b-3 64b-a 660-b 66a-7 66b-b 66d-3 670-a 671-3 6d6-a
    6dd-b 6de-8 6df-a 6e5-3 6e7-a 6e9-8 6ea-a 6ee-3 6f0-4 6fa-3
    711-a 712-3 730-a 74b-3 7a6-a 7b1-3 7c0-2 7eb-a 7f4-2 7f6-8
    7fa-2 7fd-a 7fe-2 816-a 81a-2 81b-a 824-2 825-a 828-2 829-a
    82e-2 859-a 85c-2 860-3 890-b 892-3 898-a 8a0-3 8ca-a 8e2-b
    8e3-a 903-1 93a-a 93b-1 93c-a 93d-1 941-a 949-1 94d-a 94e-1
    951-a 958-1 962-a 964-1 981-a 982-1 9bc-a 9bd-1 9c1-a 9c5-1
    9cd-a 9ce-1 9e2-a 9e4-1 9f2-7 9f4-1 9fb-7 9fc-1 9fe-a 9ff-1
    a01-a a03-1 a3c-a a3d-1 a41-a a43-1 a47-a a49-1 a4b-a a4e-1
    a51-a a52-1 a70-a a72-1 a75-a a76-1 a81-a a83-1 abc-a abd-1
    ac1-a ac6-1 ac7-a ac9-1 acd-a ace-1 ae2-a ae4-1 af1-7 af2-1
    afa-a b00-1 b01-a b02-1 b3c-a b3d-1 b3f-a b40-1 b41-a b45-1
    b4d-a b4e-1 b55-a b57-1 b62-a b64-1 b82-a b83-1 bc0-a bc1-1
    bcd-a bce-1 bf3-8 bf9-7 bfa-8 bfb-1 c00-a c01-1 c04-a c05-1
    c3c-a c3d-1 c3e-a c41-1 c46-a c49-1 c4a-a c4e-1 c55-a c57-1
    c62-a c64-1 c78-8 c7f-1 c81-a c82-1 cbc-a cbd-1 ccc-a cce-1
    ce2-a ce4-1 d00-a d02-1 d3b-a d3d-1 d41-a d45-1 d4d-a d4e-1
    d62-a d64-1 d81-a d82-1 dca-a dcb-1 dd2-a dd5-1 dd6-a dd7-1
    e31-a e32-1 e34-a e3b-1 e3f-7 e40-1 e47-a e4f-1 eb1-a eb2-1
    eb4-a ebd-1 ec8-a ecf-1 f18-a f1a-1 f35-a f36-1 f37-a f38-1
    f39-a f3a-8 f3e-1 f71-a f7f-1 f80-a f85-1 f86-a f88-1 f8d-a
    f98-1 f99-a fbd-1 fc6-a fc7-1 102d-a 1031-1 1032-a 1038-1
    1039-a 103b-1 103d-a 103f-1 1058-a 105a-1 105e-a 1061-1 1071-a
    1075-1 1082-a 1083-1 1085-a 1087-1 108d-a 108e-1 109d-a 109e-1
    135d-a 1360-1 1390-8 139a-1 1400-8 1401-1 1680-0 1681-1 169b-8
    169d-1 1712-a 1715-1 1732-a 1734-1 1752-a 1754-1 1772-a 1774-1
    17b4-a 17b6-1 17b7-a 17be-1 17c6-a 17c7-1 17c9-a 17d4-1 17db-7
    17dc-1 17dd-a 17de-1 17f0-8 17fa-1 1800-8 180b-a 180e-9 180f-a
    1810-1 1885-a 1887-1 18a9-a 18aa-1 1920-a 1923-1 1927-a 1929-1
    1932-a 1933-1 1939-a 193c-1 1940-8 1941-1 1944-8 1946-1 19de-8
    1a00-1 1a17-a 1a19-1 1a1b-a 1a1c-1 1a56-a 1a57-1 1a58-a 1a5f-1
    1a60-a 1a61-1 1a62-a 1a63-1 1a65-a 1a6d-1 1a73-a 1a7d-1 1a7f-a
    1a80-1 1ab0-a 1acf-1 1b00-a 1b04-1 1b34-a 1b35-1 1b36-a 1b3b-1
    1b3c-a 1b3d-1 1b42-a 1b43-1 1b6b-a 1b74-1 1b80-a 1b82-1 1ba2-a
    1ba6-1 1ba8-a 1baa-1 1bab-a 1bae-1 1be6-a 1be7-1 1be8-a 1bea-1
    1bed-a 1bee-1 1bef-a 1bf2-1 1c2c-a 1c34-1 1c36-a 1c38-1 1cd0-a
    1cd3-1 1cd4-a 1ce1-1 1ce2-a 1ce9-1 1ced-a 1cee-1 1cf4-a 1cf5-1
    1cf8-a 1cfa-1 1dc0-a 1e00-1 1fbd-8 1fbe-1 1fbf-8 1fc2-1 1fcd-8
    1fd0-1 1fdd-8 1fe0-1 1fed-8 1ff0-1 1ffd-8 1fff-1 2000-0 200b-9
    200e-1 200f-2 2010-8 2028-0 202f-6 2030-7 2035-8 2044-6 2045-8
    205f-0 2060-9 2066-0 206a-9 2070-4 2071-1 2074-4 207a-5 207c-8
    207f-1 2080-4 208a-5 208c-8 208f-1 20a0-7 20d0-a 20f1-1 2100-8
    2102-1 2103-8 2107-1 2108-8 210a-1 2114-8 2115-1 2116-8 2119-1
    211e-8 2124-1 2125-8 2126-1 2127-8 2128-1 2129-8 212a-1 212e-7
    212f-1 213a-8 213c-1 2140-8 2145-1 214a-8 214e-1 2150-8 2160-1
    2189-8 218c-1 2190-8 2212-5 2213-7 2214-8 2336-1 237b-8 2395-1
    2396-8 2427-1 2440-8 244b-1 2460-8 2488-4 249c-1 24ea-8 26ac-1
    26ad-8 2800-1 2900-8 2b74-1 2b76-8 2b96-1 2b97-8 2c00-1 2ce5-8
    2ceb-1 2cef-a 2cf2-1 2cf9-8 2d00-1 2d7f-a 2d80-1 2de0-a 2e00-8
    2e5e-1 2e80-8 2e9a-1 2e9b-8 2ef4-1 2f00-8 2fd6-1 2ff0-8 2ffc-1
    3000-0 3001-8 3005-1 3008-8 3021-1 302a-a 302e-1 3030-8 3031-1
    3036-8 3038-1 303d-8 3040-1 3099-a 309b-8 309d-1 30a0-8 30a1-1
    30fb-8 30fc-1 31c0-8 31e4-1 321d-8 321f-1 3250-8 3260-1 327c-8
    327f-1 32b1-8 32c0-1 32cc-8 32d0-1 3377-8 337b-1 33de-8 33e0-1
    33ff-8 3400-1 4dc0-8 4e00-1 a490-8 a4c7-1 a60d-8 a610-1 a66f-a
    a673-8 a674-a a67e-8 a680-1 a69e-a a6a0-1 a6f0-a a6f2-1 a700-8
    a722-1 a788-8 a789-1 a802-a a803-1 a806-a a807-1 a80b-a a80c-1
    a825-a a827-1 a828-8 a82c-a a82d-1 a838-7 a83a-1 a874-8 a878-1
    a8c4-a a8c6-1 a8e0-a a8f2-1 a8ff-a a900-1 a926-a a92e-1 a947-a
    a952-1 a980-a a983-1 a9b3-a a9b4-1 a9b6-a a9ba-1 a9bc-a a9be-1
    a9e5-a a9e6-1 aa29-a aa2f-1 aa31-a aa33-1 aa35-a aa37-1 aa43-a
    aa44-1 aa4c-a aa4d-1 aa7c-a aa7d-1 aab0-a aab1-1 aab2-a aab5-1
    aab7-a aab9-1 aabe-a aac0-1 aac1-a aac2-1 aaec-a aaee-1 aaf6-a
    aaf7-1 ab6a-8 ab6c-1 abe5-a abe6-1 abe8-a abe9-1 abed-a abee-1
    fb1d-2 fb1e-a fb1f-2 fb29-5 fb2a-2 fb50-3 fd3e-8 fd50-3 fdcf-8
    fdd0-9 fdf0-3 fdfd-8 fe00-a fe10-8 fe1a-1 fe20-a fe30-8 fe50-6
    fe51-8 fe52-6 fe53-1 fe54-8 fe55-6 fe56-8 fe5f-7 fe60-8 fe62-5
    fe64-8 fe67-1 fe68-8 fe69-7 fe6b-8 fe6c-1 fe70-3 feff-9 ff00-1
    ff01-8 ff03-7 ff06-8 ff0b-5 ff0c-6 ff0d-5 ff0e-6 ff10-4 ff1a-6
    ff1b-8 ff21-1 ff3b-8 ff41-1 ff5b-8 ff66-1 ffe0-7 ffe2-8 ffe5-7
    ffe7-1 ffe8-8 ffef-1 fff0-9 fff9-8 fffe-9 10000-1 10101-8
    10102-1 10140-8 1018d-1 10190-8 1019d-1 101a0-8 101a1-1
    101fd-a 101fe-1 102e0-a 102e1-4 102fc-1 10376-a 1037b-1
    10800-2 1091f-8 10920-2 10a01-a 10a04-2 10a05-a 10a07-2
    10a0c-a 10a10-2 10a38-a 10a3b-2 10a3f-a 10a40-2 10ae5-a
    10ae7-2 10b39-8 10b40-2 10d00-3 10d24-a 10d28-3 10d30-b
    10d3a-3 10d40-2 10e60-b 10e7f-2 10eab-a 10ead-2 10ec0-3
    10efd-a 10f00-2 10f30-3 10f46-a 10f51-3 10f70-2 10f82-a
    10f86-2 11000-1 11001-a 11002-1 11038-a 11047-1 11052-8
    11066-1 11070-a 11071-1 11073-a 11075-1 1107f-a 11082-1
    110b3-a 110b7-1 110b9-a 110bb-1 110c2-a 110c3-1 11100-a
    11103-1 11127-a 1112c-1 1112d-a 11135-1 11173-a 11174-1
    11180-a 11182-1 111b6-a 111bf-1 111c9-a 111cd-1 111cf-a
    111d0-1 1122f-a 11232-1 11234-a 11235-1 11236-a 11238-1
    1123e-a 1123f-1 11241-a 11242-1 112df-a 112e0-1 112e3-a
    112eb-1 11300-a 11302-1 1133b-a 1133d-1 11340-a 11341-1
    11366-a 1136d-1 11370-a 11375-1 11438-a 11440-1 11442-a
    11445-1 11446-a 11447-1 1145e-a 1145f-1 114b3-a 114b9-1
    114ba-a 114bb-1 114bf-a 114c1-1 114c2-a 114c4-1 115b2-a
    115b6-1 115bc-a 115be-1 115bf-a 115c1-1 115dc-a 115de-1
    11633-a 1163b-1 1163d-a 1163e-1 1163f-a 11641-1 11660-8
    1166d-1 116ab-a 116ac-1 116ad-a 116ae-1 116b0-a 116b6-1
    116b7-a 116b8-1 1171d-a 11720-1 11722-a 11726-1 11727-a
    1172c-1 1182f-a 11838-1 11839-a 1183b-1 1193b-a 1193d-1
    1193e-a 1193f-1 11943-a 11944-1 119d4-a 119d8-1 119da-a
    119dc-1 119e0-a 119e1-1 11a01-a 11a07-1 11a09-a 11a0b-1
    11a33-a 11a39-1 11a3b-a 11a3f-1 11a47-a 11a48-1 11a51-a
    11a57-1 11a59-a 11a5c-1 11a8a-a 11a97-1 11a98-a 11a9a-1
    11c30-a 11c37-1 11c38-a 11c3e-1 11c92-a 11ca8-1 11caa-a
    11cb1-1 11cb2-a 11cb4-1 11cb5-a 11cb7-1 11d31-a 11d37-1
    11d3a-a 11d3b-1 11d3c-a 11d3e-1 11d3f-a 11d46-1 11d47-a
    11d48-1 11d90-a 11d92-1 11d95-a 11d96-1 11d97-a 11d98-1
    11ef3-a 11ef5-1 11f00-a 11f02-1 11f36-a 11f3b-1 11f40-a
    11f41-1 11f42-a 11f43-1 11fd5-8 11fdd-7 11fe1-8 11ff2-1
    13440-a 13441-1 13447-a 13456-1 16af0-a 16af5-1 16b30-a
    16b37-1 16f4f-a 16f50-1 16f8f-a 16f93-1 16fe2-8 16fe3-1
    16fe4-a 16fe5-1 1bc9d-a 1bc9f-1 1bca0-9 1bca4-1 1cf00-a
    1cf2e-1 1cf30-a 1cf47-1 1d167-a 1d16a-1 1d173-9 1d17b-a
    1d183-1 1d185-a 1d18c-1 1d1aa-a 1d1ae-1 1d1e9-8 1d1eb-1
    1d200-8 1d242-a 1d245-8 1d246-1 1d300-8 1d357-1 1d6db-8
    1d6dc-1 1d715-8 1d716-1 1d74f-8 1d750-1 1d789-8 1d78a-1
    1d7c3-8 1d7c4-1 1d7ce-4 1d800-1 1da00-a 1da37-1 1da3b-a
    1da6d-1 1da75-a 1da76-1 1da84-a 1da85-1 1da9b-a 1daa0-1
    1daa1-a 1dab0-1 1e000-a 1e007-1 1e008-a 1e019-1 1e01b-a
    1e022-1 1e023-a 1e025-1 1e026-a 1e02b-1 1e08f-a 1e090-1
    1e130-a 1e137-1 1e2ae-a 1e2af-1 1e2ec-a 1e2f0-1 1e2ff-7
    1e300-1 1e4ec-a 1e4f0-1 1e800-2 1e8d0-a 1e8d7-2 1e944-a
    1e94b-2 1ec70-3 1ecc0-2 1ed00-3 1ed50-2 1ee00-3 1eef0-8
    1eef2-3 1ef00-2 1f000-8 1f02c-1 1f030-8 1f094-1 1f0a0-8
    1f0af-1 1f0b1-8 1f0c0-1 1f0c1-8 1f0d0-1 1f0d1-8 1f0f6-1
    1f100-4 1f10b-8 1f110-1 1f12f-8 1f130-1 1f16a-8 1f170-1
    1f1ad-8 1f1ae-1 1f260-8 1f266-1 1f300-8 1f6d8-1 1f6dc-8
    1f6ed-1 1f6f0-8 1f6fd-1 1f700-8 1f777-1 1f77b-8 1f7da-1
    1f7e0-8 1f7ec-1 1f7f0-8 1f7f1-1 1f800-8 1f80c-1 1f810-8
    1f848-1 1f850-8 1f85a-1 1f860-8 1f888-1 1f890-8 1f8ae-1
    1f8b0-8 1f8b2-1 1f900-8 1fa54-1 1fa60-8 1fa6e-1 1fa70-8
    1fa7d-1 1fa80-8 1fa89-1 1fa90-8 1fabe-1 1fabf-8 1fac6-1
    1face-8 1fadc-1 1fae0-8 1fae9-1 1faf0-8 1faf9-1 1fb00-8
    1fb93-1 1fb94-8 1fbcb-1 1fbf0-4 1fbfa-1 1fffe-9 20000-1
    2fffe-9 30000-1 3fffe-9 40000-1 4fffe-9 50000-1 5fffe-9
    60000-1 6fffe-9 70000-1 7fffe-9 80000-1 8fffe-9 90000-1
    9fffe-9 a0000-1 afffe-9 b0000-1 bfffe-9 c0000-1 cfffe-9
    d0000-1 dfffe-9 e0100-a e01f0-9 e1000-1 efffe-9 f0000-1
    ffffe-9 100000-1 10fffe-9 110000-1"

/- The classes by direction of writing. -/
def directions : Text.Table :=
  Text.Table.ofText directionText

/- The class of a character by direction of writing. -/
def direction (c : Char) : Direction :=
  match directions.floor? c.toNat with
  | some (_, [n]) => Direction.ofCode n
  | _ => .other

------------------------------------------------------------
-- Joining
------------------------------------------------------------

/- On which sides a letter joins its neighbours. -/
inductive Joining
  | none
  | left
  | right
  | dual
  | transparent
deriving DecidableEq, Inhabited, Repr

namespace Joining

/- The class of a number in the table. -/
def ofCode : Nat → Joining
  | 1 => left
  | 2 => right
  | 3 => dual
  | 4 => transparent
  | _ => none

end Joining

/- Where a class begins, and its number. -/
def joiningText : String :=
  "
    0-0 ad-4 ae-0 300-4 370-0 483-4 48a-0 591-4 5be-0 5bf-4 5c0-0
    5c1-4 5c3-0 5c4-4 5c6-0 5c7-4 5c8-0 610-4 61b-0 61c-4 61d-0
    620-3 621-0 622-2 626-3 627-2 628-3 629-2 62a-3 62f-2 633-3
    640-0 641-3 648-2 649-3 64b-4 660-0 66e-3 670-4 671-2 674-0
    675-2 678-3 688-2 69a-3 6c0-2 6c1-3 6c3-2 6cc-3 6cd-2 6ce-3
    6cf-2 6d0-3 6d2-2 6d4-0 6d5-2 6d6-4 6dd-0 6df-4 6e5-0 6e7-4
    6e9-0 6ea-4 6ee-2 6f0-0 6fa-3 6fd-0 6ff-3 700-0 70f-4 710-2
    711-4 712-3 715-2 71a-3 71e-2 71f-3 728-2 729-3 72a-2 72b-3
    72c-2 72d-3 72f-2 730-4 74b-0 74d-2 74e-3 759-2 75c-3 76b-2
    76d-3 771-2 772-3 773-2 775-3 778-2 77a-3 780-0 7a6-4 7b1-0
    7ca-3 7eb-4 7f4-0 7fd-4 7fe-0 816-4 81a-0 81b-4 824-0 825-4
    828-0 829-4 82e-0 840-2 841-3 846-2 848-3 849-2 84a-3 854-2
    855-3 856-2 859-4 85c-0 860-3 861-0 862-3 866-0 867-2 868-3
    869-2 86b-0 870-2 883-0 886-3 887-0 889-3 88e-2 88f-0 898-4
    8a0-3 8aa-2 8ad-0 8ae-2 8af-3 8b1-2 8b3-3 8b9-2 8ba-3 8c9-0
    8ca-4 8e2-0 8e3-4 903-0 93a-4 93b-0 93c-4 93d-0 941-4 949-0
    94d-4 94e-0 951-4 958-0 962-4 964-0 981-4 982-0 9bc-4 9bd-0
    9c1-4 9c5-0 9cd-4 9ce-0 9e2-4 9e4-0 9fe-4 9ff-0 a01-4 a03-0
    a3c-4 a3d-0 a41-4 a43-0 a47-4 a49-0 a4b-4 a4e-0 a51-4 a52-0
    a70-4 a72-0 a75-4 a76-0 a81-4 a83-0 abc-4 abd-0 ac1-4 ac6-0
    ac7-4 ac9-0 acd-4 ace-0 ae2-4 ae4-0 afa-4 b00-0 b01-4 b02-0
    b3c-4 b3d-0 b3f-4 b40-0 b41-4 b45-0 b4d-4 b4e-0 b55-4 b57-0
    b62-4 b64-0 b82-4 b83-0 bc0-4 bc1-0 bcd-4 bce-0 c00-4 c01-0
    c04-4 c05-0 c3c-4 c3d-0 c3e-4 c41-0 c46-4 c49-0 c4a-4 c4e-0
    c55-4 c57-0 c62-4 c64-0 c81-4 c82-0 cbc-4 cbd-0 cbf-4 cc0-0
    cc6-4 cc7-0 ccc-4 cce-0 ce2-4 ce4-0 d00-4 d02-0 d3b-4 d3d-0
    d41-4 d45-0 d4d-4 d4e-0 d62-4 d64-0 d81-4 d82-0 dca-4 dcb-0
    dd2-4 dd5-0 dd6-4 dd7-0 e31-4 e32-0 e34-4 e3b-0 e47-4 e4f-0
    eb1-4 eb2-0 eb4-4 ebd-0 ec8-4 ecf-0 f18-4 f1a-0 f35-4 f36-0
    f37-4 f38-0 f39-4 f3a-0 f71-4 f7f-0 f80-4 f85-0 f86-4 f88-0
    f8d-4 f98-0 f99-4 fbd-0 fc6-4 fc7-0 102d-4 1031-0 1032-4
    1038-0 1039-4 103b-0 103d-4 103f-0 1058-4 105a-0 105e-4 1061-0
    1071-4 1075-0 1082-4 1083-0 1085-4 1087-0 108d-4 108e-0 109d-4
    109e-0 135d-4 1360-0 1712-4 1715-0 1732-4 1734-0 1752-4 1754-0
    1772-4 1774-0 17b4-4 17b6-0 17b7-4 17be-0 17c6-4 17c7-0 17c9-4
    17d4-0 17dd-4 17de-0 1807-3 1808-0 180b-4 180e-0 180f-4 1810-0
    1820-3 1879-0 1885-4 1887-3 18a9-4 18aa-3 18ab-0 1920-4 1923-0
    1927-4 1929-0 1932-4 1933-0 1939-4 193c-0 1a17-4 1a19-0 1a1b-4
    1a1c-0 1a56-4 1a57-0 1a58-4 1a5f-0 1a60-4 1a61-0 1a62-4 1a63-0
    1a65-4 1a6d-0 1a73-4 1a7d-0 1a7f-4 1a80-0 1ab0-4 1acf-0 1b00-4
    1b04-0 1b34-4 1b35-0 1b36-4 1b3b-0 1b3c-4 1b3d-0 1b42-4 1b43-0
    1b6b-4 1b74-0 1b80-4 1b82-0 1ba2-4 1ba6-0 1ba8-4 1baa-0 1bab-4
    1bae-0 1be6-4 1be7-0 1be8-4 1bea-0 1bed-4 1bee-0 1bef-4 1bf2-0
    1c2c-4 1c34-0 1c36-4 1c38-0 1cd0-4 1cd3-0 1cd4-4 1ce1-0 1ce2-4
    1ce9-0 1ced-4 1cee-0 1cf4-4 1cf5-0 1cf8-4 1cfa-0 1dc0-4 1e00-0
    200b-4 200c-0 200e-4 2010-0 202a-4 202f-0 2060-4 2065-0 206a-4
    2070-0 20d0-4 20f1-0 2cef-4 2cf2-0 2d7f-4 2d80-0 2de0-4 2e00-0
    302a-4 302e-0 3099-4 309b-0 a66f-4 a673-0 a674-4 a67e-0 a69e-4
    a6a0-0 a6f0-4 a6f2-0 a802-4 a803-0 a806-4 a807-0 a80b-4 a80c-0
    a825-4 a827-0 a82c-4 a82d-0 a840-3 a872-1 a873-0 a8c4-4 a8c6-0
    a8e0-4 a8f2-0 a8ff-4 a900-0 a926-4 a92e-0 a947-4 a952-0 a980-4
    a983-0 a9b3-4 a9b4-0 a9b6-4 a9ba-0 a9bc-4 a9be-0 a9e5-4 a9e6-0
    aa29-4 aa2f-0 aa31-4 aa33-0 aa35-4 aa37-0 aa43-4 aa44-0 aa4c-4
    aa4d-0 aa7c-4 aa7d-0 aab0-4 aab1-0 aab2-4 aab5-0 aab7-4 aab9-0
    aabe-4 aac0-0 aac1-4 aac2-0 aaec-4 aaee-0 aaf6-4 aaf7-0 abe5-4
    abe6-0 abe8-4 abe9-0 abed-4 abee-0 fb1e-4 fb1f-0 fe00-4 fe10-0
    fe20-4 fe30-0 feff-4 ff00-0 fff9-4 fffc-0 101fd-4 101fe-0
    102e0-4 102e1-0 10376-4 1037b-0 10a01-4 10a04-0 10a05-4
    10a07-0 10a0c-4 10a10-0 10a38-4 10a3b-0 10a3f-4 10a40-0
    10ac0-3 10ac5-2 10ac6-0 10ac7-2 10ac8-0 10ac9-2 10acb-0
    10acd-1 10ace-2 10ad3-3 10ad7-1 10ad8-3 10add-2 10ade-3
    10ae1-2 10ae2-0 10ae4-2 10ae5-4 10ae7-0 10aeb-3 10aef-2
    10af0-0 10b80-3 10b81-2 10b82-3 10b83-2 10b86-3 10b89-2
    10b8a-3 10b8c-2 10b8d-3 10b8e-2 10b90-3 10b91-2 10b92-0
    10ba9-2 10bad-3 10baf-0 10d00-1 10d01-3 10d22-2 10d23-3
    10d24-4 10d28-0 10eab-4 10ead-0 10efd-4 10f00-0 10f30-3
    10f33-2 10f34-3 10f45-0 10f46-4 10f51-3 10f54-2 10f55-0
    10f70-3 10f74-2 10f76-3 10f82-4 10f86-0 10fb0-3 10fb1-0
    10fb2-3 10fb4-2 10fb7-0 10fb8-3 10fb9-2 10fbb-3 10fbd-2
    10fbe-3 10fc0-0 10fc1-3 10fc2-2 10fc4-3 10fc5-0 10fc9-2
    10fca-3 10fcb-1 10fcc-0 11001-4 11002-0 11038-4 11047-0
    11070-4 11071-0 11073-4 11075-0 1107f-4 11082-0 110b3-4
    110b7-0 110b9-4 110bb-0 110c2-4 110c3-0 11100-4 11103-0
    11127-4 1112c-0 1112d-4 11135-0 11173-4 11174-0 11180-4
    11182-0 111b6-4 111bf-0 111c9-4 111cd-0 111cf-4 111d0-0
    1122f-4 11232-0 11234-4 11235-0 11236-4 11238-0 1123e-4
    1123f-0 11241-4 11242-0 112df-4 112e0-0 112e3-4 112eb-0
    11300-4 11302-0 1133b-4 1133d-0 11340-4 11341-0 11366-4
    1136d-0 11370-4 11375-0 11438-4 11440-0 11442-4 11445-0
    11446-4 11447-0 1145e-4 1145f-0 114b3-4 114b9-0 114ba-4
    114bb-0 114bf-4 114c1-0 114c2-4 114c4-0 115b2-4 115b6-0
    115bc-4 115be-0 115bf-4 115c1-0 115dc-4 115de-0 11633-4
    1163b-0 1163d-4 1163e-0 1163f-4 11641-0 116ab-4 116ac-0
    116ad-4 116ae-0 116b0-4 116b6-0 116b7-4 116b8-0 1171d-4
    11720-0 11722-4 11726-0 11727-4 1172c-0 1182f-4 11838-0
    11839-4 1183b-0 1193b-4 1193d-0 1193e-4 1193f-0 11943-4
    11944-0 119d4-4 119d8-0 119da-4 119dc-0 119e0-4 119e1-0
    11a01-4 11a0b-0 11a33-4 11a39-0 11a3b-4 11a3f-0 11a47-4
    11a48-0 11a51-4 11a57-0 11a59-4 11a5c-0 11a8a-4 11a97-0
    11a98-4 11a9a-0 11c30-4 11c37-0 11c38-4 11c3e-0 11c3f-4
    11c40-0 11c92-4 11ca8-0 11caa-4 11cb1-0 11cb2-4 11cb4-0
    11cb5-4 11cb7-0 11d31-4 11d37-0 11d3a-4 11d3b-0 11d3c-4
    11d3e-0 11d3f-4 11d46-0 11d47-4 11d48-0 11d90-4 11d92-0
    11d95-4 11d96-0 11d97-4 11d98-0 11ef3-4 11ef5-0 11f00-4
    11f02-0 11f36-4 11f3b-0 11f40-4 11f41-0 11f42-4 11f43-0
    13430-4 13441-0 13447-4 13456-0 16af0-4 16af5-0 16b30-4
    16b37-0 16f4f-4 16f50-0 16f8f-4 16f93-0 16fe4-4 16fe5-0
    1bc9d-4 1bc9f-0 1bca0-4 1bca4-0 1cf00-4 1cf2e-0 1cf30-4
    1cf47-0 1d167-4 1d16a-0 1d173-4 1d183-0 1d185-4 1d18c-0
    1d1aa-4 1d1ae-0 1d242-4 1d245-0 1da00-4 1da37-0 1da3b-4
    1da6d-0 1da75-4 1da76-0 1da84-4 1da85-0 1da9b-4 1daa0-0
    1daa1-4 1dab0-0 1e000-4 1e007-0 1e008-4 1e019-0 1e01b-4
    1e022-0 1e023-4 1e025-0 1e026-4 1e02b-0 1e08f-4 1e090-0
    1e130-4 1e137-0 1e2ae-4 1e2af-0 1e2ec-4 1e2f0-0 1e4ec-4
    1e4f0-0 1e8d0-4 1e8d7-0 1e900-3 1e944-4 1e94c-0 e0001-4
    e0002-0 e0020-4 e0080-0 e0100-4 e01f0-0"

/- The classes by joining. -/
def joinings : Text.Table :=
  Text.Table.ofText joiningText

/- The class of a character by joining. -/
def joining (c : Char) : Joining :=
  match joinings.floor? c.toNat with
  | some (_, [n]) => Joining.ofCode n
  | _ => .none

end Domain

end EventFeed
