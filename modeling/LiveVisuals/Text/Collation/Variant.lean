import LiveVisuals.Text.CodeTable

/-!
# Variants of characters

Many characters count like others on the first level of comparison: a wide letter like the
plain one, a ligature like its letters, a fraction like its digits. What tells them apart is a
shade, and for some an accent. Marks that only change a letter count by their accent alone,
and some characters do not count at all.

Main definitions:

- {lit}`Collation.variantTable`: characters that count like others.
- {lit}`Collation.accentTable`: marks that count by their accent.
- {lit}`Collation.silentTable`: characters that do not count.
-/

namespace LiveVisuals.Collation

open Text

/-- A part of what a variant counts like. -/
structure VariantPart where
  /-- The character whose place it has, or characters that have one together; none if it counts
  by its accent alone. -/
  base : List Nat
  /-- Its accent, if it is not that of the base. -/
  accent : Option Nat
  /-- Its shade, if it is not that of the whole variant. -/
  shade : Option Nat
deriving DecidableEq, Repr

/-- What a character counts like. -/
structure Variant where
  shade : Nat
  parts : List VariantPart
deriving DecidableEq, Repr

/-- Read a part: a base, then perhaps an accent after a slash and a shade after a colon. -/
def VariantPart.ofText (s : String) : VariantPart :=
  let (s, shade) : String × Option Nat :=
    match s.splitOn ":" with
    | [s, t] => (s, some (hexNumber t))
    | _ => (s, none)
  let (s, accent) : String × Option Nat :=
    match s.splitOn "/" with
    | [s, t] => (s, some (hexNumber t))
    | _ => (s, none)
  ⟨if s.isEmpty then [] else (s.splitOn "+").map hexNumber, accent, shade⟩

/-- The part that another character of a run has. -/
def VariantPart.shift (p : VariantPart) (i : Nat) : VariantPart :=
  { p with base := p.base.map (· + i) }

/-! ## Tables

A record has a run of characters, their shade and the parts of the first of them. -/

/-- Variants among Latin, Greek and modifier letters. -/
def latinVariants : List String :=
  [ "A0 1B 20; AA 14 61; B2-B3 14 32; B5 4 3BC; B9 14 31; BA 14 6F; BC 1E 31 2044 34; BD 1E"
  , "31 2044 32; BE 1E 33 2044 34; DF 4 73 /118 73; E6 4 61 /118 65; F0 4 64 /118; F8 2 6F"
  , "338; 111 2 64 335; 127 2 68 335; 133 4 69 6A; 140 2 6C /118; 142 2 6C 335; 149 4 2BC"
  , "6E; 153 4 6F /118 65; 17F 4 73 /119; 18D 4 7A 77; 1BE 4 74 73; 1C5 4 64:A 7A 30C; 1C6"
  , "4 64 7A 30C; 1C8 A 6C 6A:4; 1C9 4 6C 6A; 1CB A 6E 6A:4; 1CC 4 6E 6A; 1F2 A 64 7A:4;"
  , "1F3 4 64 7A; 238 4 64 62; 239 4 71 70; 2A3 4 64 7A; 2A4 4 64 292; 2A5 4 64 291; 2A6 4"
  , "74 73; 2A7 4 74 283; 2A8 4 74 255; 2A9 4 66 14B; 2AA 4 6C 73; 2AB 4 6C 7A; 2B0 14 68;"
  , "2B1 14 266; 2B2 14 6A; 2B3 14 72; 2B4 14 279; 2B5 14 27B; 2B6 14 281; 2B7 14 77; 2B8"
  , "14 79; 2E0 14 263; 2E1 14 6C; 2E2 14 73; 2E3 14 78; 2E4 14 295; 363 4 61; 364 4 65;"
  , "365 4 69; 366 4 6F; 367 4 75; 368-369 4 63; 36A 4 68; 36B 4 6D; 36C 4 72; 36D 4 74;"
  , "36E 4 76; 36F 4 78; 37A 4 3B9; 384 2 B4; 3C2 19 3C3; 3CF 4 3BA:A 3B1 3B9; 3D0 4 3B2;"
  , "3D1 4 3B8; 3D2 A 3C5; 3D5 4 3C6; 3D6 4 3C0; 3D7 4 3BA 3B1 3B9; 3F0 4 3BA; 3F1 4 3C1;"
  , "3F2 4 3C3; 3F4 A 3B8; 3F5 4 3B5" ]

/-- Variants among letters and digits of other scripts. -/
def scriptVariants : List String :=
  [ "491 4 433 /119; 587 4 565 582; 5DA 19 5DB; 5DD 19 5DE; 5DF 19 5E0; 5E3 19 5E4; 5E5 19"
  , "5E6; 5EF 4 5D9 5D4 5D5 5D4; 5F0 4 5D5 5D5; 5F1 4 5D5 5D9; 5F2 4 5D9 5D9; 660-669 2 30;"
  , "674 4 621; 675 4 627 621; 676 4 648 621; 677 4 6C7 621; 678 4 64A 621; 6E5 4 648; 6E6"
  , "4 64A; 6F0-6F9 2 30; 6FD 4 621 /119; 6FE 4 645 /119; 714 4 713 /119; 71C 4 71B /119;"
  , "724 19 723; 727 4 726 /119; 72D 4 712 /11A; 72E 4 713 /11A; 72F 4 715 /11A; 7C0-7C9 2"
  , "30; 7E8 4 7D6 /118; 7E9 4 7D7 /118; 7EA 4 7D9 /118; 8AD 4 627; 966-96F 2 30; 9CE 4 9A4"
  , "9CD; 9E6-9EF 2 30; A66-A6F 2 30; AE6-AEF 2 30; B66-B6F 2 30; BE6-BEF 2 30; C66-C6F 2"
  , "30; C78-C7B 2 30; C7C-C7E 2 31; CE6-CEF 2 30; D3B 4 D4D; D3C 4 D4D; D4E 4 D30 D4D; D54"
  , "4 D2E D4D; D55 4 D2F D4D; D56 4 D34 D4D; D66-D6F 2 30; D7A 4 D23 D4D; D7B 4 D28 D4D;"
  , "D7C 4 D30 D4D; D7D 4 D32 D4D; D7E 4 D33 D4D; D7F 4 D15 D4D; DE6-DEF 2 30; E50-E59 2"
  , "30; ED0-ED9 2 30; EDC 4 EAB E99; EDD 4 EAB EA1; F00 4 F68 F7C 902; F0C 1B F0B; F20-F29"
  , "2 30; F2A-F32 4 31; F33 4 30; F6A 4 F62 /119; FBA 4 FAD /119; FBB 4 FB1 /119; FBC 4"
  , "FB2 /119; 102B 4 102C; 103F 4 101E 1039 101E; 1040-1049 2 30; 1090-1099 2 30; 10FC 14"
  , "10DC; 1369-1371 2 31; 1680 4 20; 16A1 4 16A0 /118; 16A4 4 16A2 /118; 16A5 4 16A2 /119;"
  , "16A7 4 16A6 /118; 16A9 4 16A8 /118; 16AC 4 16A8 /119; 16AD 4 16A8 /11A; 16AE 4 16A8"
  , "/11B; 16B3 4 16B2 /118; 16B4 4 16B2 /119; 16B5 4 16B2 /11A; 16B6 4 16B2 /11B; 16BB 4"
  , "16BA /118; 16BC 4 16BA /119; 16BD 4 16BA /11A; 16BF 4 16BE /118; 16C0 4 16BE /119;"
  , "16C2 4 16C1 /118; 16C4 4 16C3 /118; 16C6 4 16C5 /118; 16CB 4 16CA /118; 16CC 4 16CA"
  , "/11A; 16CD 4 16CA /11B; 16CE 4 16CA /11C; 16D0 4 16CF /118; 16D1 4 16CF /119; 16D3 4"
  , "16D2 /118; 16D4 4 16D2 /119; 16D5 4 16C8 /118; 16D8 4 16D7 /118; 16D9 4 16D7 /119;"
  , "16DB 4 16DA /118; 16DD 4 16DC /118; 16E7 4 16E6 /118; 16E8 4 16E6 /119; 16E9 4 16B9"
  , "/118; 16EA 4 16CA /119; 16EE 4 16C5 16DA; 16EF 4 16D7 /118 16D7 /118; 16F0 4 16A6"
  , "16A6; 17E0-17E9 2 30; 17F0-17F9 2 30; 1810-1819 2 30; 191D 4 1908 1929; 191E 4 190B"
  , "192A; 1946-194F 2 30; 19D0-19D9 2 30; 19DA 2 31; 19DE 4 199C 19B6; 19DF 4 199C 19B6"
  , "19C1; 1A54 4 1A46 1A60 1A46; 1A58 4 1A26; 1A59 4 1A26; 1A5A 4 1A3B; 1A5B 4 1A3B; 1A64"
  , "4 1A63; 1A80-1A89 2 30; 1A90-1A99 2 30; 1ABF 4 77; 1AC0 4 28D; 1B50-1B59 2 30;"
  , "1BB0-1BB9 2 30; 1BBA 4 1B83; 1BBE 19 1B8A; 1BBF 19 1B99; 1BC1 4 1BC0; 1BC3 4 1BC2;"
  , "1BC4 4 1BC2; 1BC6 4 1BC5; 1BC8 4 1BC7; 1BCA 4 1BC9; 1BCC 4 1BCB; 1BCD 4 1BCB; 1BCF 4"
  , "1BCE; 1BD3 4 1BD2; 1BD5 4 1BD4; 1BD7 4 1BD6; 1BD9 4 1BD8; 1BDA 4 1BD8; 1BDC 4 1BDB;"
  , "1BDF 4 1BDE; 1BE8 4 1BE7; 1BEB 4 1BEA; 1BED 4 1BEC; 1BEF 4 1BEE; 1C40-1C49 2 30;"
  , "1C50-1C59 2 30; 1C80 4 432; 1C81 4 434; 1C82 4 43E; 1C83-1C84 4 441; 1C85 4 442; 1C86"
  , "4 44A; 1C87 4 463; 1C88 4 A64B; 1CEA 4 1CE9; 1CEB 4 1CE9; 1CEC 4 1CE9; 1CEE 4 1CE9;"
  , "1CEF 4 1CE9; 1CF0 4 1CE9; 1CF1 4 1CE9; 1CFA 4 1CE9; 1D2C 1D 61; 1D2D 14 61 /118 65;"
  , "1D2E 1D 62; 1D30-1D31 1D 64; 1D32 1D 1DD; 1D33-1D3A 1D 67; 1D3C 1D 6F; 1D3D 1D 223;"
  , "1D3E 1D 70; 1D3F 1D 72; 1D40-1D41 1D 74; 1D42 1D 77; 1D43 14 61; 1D44-1D45 14 250;"
  , "1D46 14 1D02; 1D47 14 62; 1D48-1D49 14 64; 1D4A 14 259; 1D4B 14 25B; 1D4C 14 1D08;"
  , "1D4D 14 67; 1D4E 14 1D09; 1D4F 14 6B; 1D50 14 6D; 1D51 14 14B; 1D52 14 6F; 1D53 14"
  , "254; 1D54-1D55 14 1D16; 1D56 14 70; 1D57-1D58 14 74; 1D59 14 1D1D; 1D5A 14 26F; 1D5B"
  , "14 76; 1D5C 14 1D25; 1D5D-1D5F 14 3B2; 1D60-1D61 14 3C6; 1D62 15 69; 1D63 15 72;"
  , "1D64-1D65 15 75; 1D66-1D67 15 3B2; 1D68 15 3C1; 1D69-1D6A 15 3C6; 1D78 14 43D; 1D79 4"
  , "67 /119; 1D7A 4 74 /118 68; 1D9B 14 252; 1D9C 14 63; 1D9D 14 255; 1D9E 14 64 /118;"
  , "1D9F 14 25C; 1DA0 14 66; 1DA1 14 25F; 1DA2 14 261; 1DA3 14 265; 1DA4-1DA6 14 268; 1DA7"
  , "14 1D7B; 1DA8 14 29D; 1DA9 14 26D; 1DAA 14 1D85; 1DAB 14 29F; 1DAC 14 271; 1DAD 14"
  , "270; 1DAE-1DB1 14 272; 1DB2 14 278; 1DB3-1DB4 14 282; 1DB5 14 1AB; 1DB6-1DB7 14 289;"
  , "1DB8 14 1D1C; 1DB9-1DBA 14 28B; 1DBB 14 7A; 1DBC-1DBE 14 290; 1DBF 14 3B8; 1DCA 4 72;"
  , "1DD2 4 A76F; 1DD3 4 61 /118; 1DD4 4 61 /118 65; 1DD5 4 61 6F; 1DD6 4 61 76; 1DD7 4 63"
  , "327; 1DD8 4 64 /119; 1DD9 4 64 /118; 1DDA 4 67; 1DDB 4 262; 1DDC-1DDD 4 6B; 1DDE 4"
  , "29F; 1DDF 4 1D0D; 1DE0 4 6E; 1DE1 4 274; 1DE2 4 280; 1DE3 4 A75B; 1DE4 4 73; 1DE5 4 73"
  , "/119; 1DE6 4 7A; 1DE7 4 251; 1DE8 4 62; 1DE9 4 A7B5; 1DEA 4 259; 1DEB 4 66; 1DEC 4"
  , "AB38; 1DED 4 6F 316; 1DEE 4 70; 1DEF 4 283; 1DF0 4 75 316; 1DF1 4 77; 1DF2 4 61 308;"
  , "1DF3 4 6F 308; 1DF4 4 75 308; 1E9A 4 61 2BE; 1EFB 4 6C 6C; 1FBF 2 1FBD" ]

/-- Variants among punctuation, letterlike symbols, enclosed characters and squares. -/
def symbolVariants : List String :=
  [ "2002 4 20; 2003 4 20; 2004 4 20; 2005 4 20; 2006 4 20; 2007 1B 20; 2008 4 20; 2009 4"
  , "20; 200A 4 20; 2011 1B 2010; 2024 4 2E; 2025 4 2E 2E; 2026 4 2E 2E 2E; 202F 1B 20;"
  , "2033 4 2032 2032; 2034 4 2032 2032 2032; 2036 4 2035 2035; 2037 4 2035 2035 2035; 203C"
  , "4 21 21; 2047 4 3F 3F; 2048 4 3F 21; 2049 4 21 3F; 2057 4 2032 2032 2032 2032; 205F 4"
  , "20; 2070 14 30; 2071 14 69; 2074-2079 14 34; 207A 14 2B; 207B 14 2212; 207C 14 3D;"
  , "207D-207E 14 28; 207F 14 6E; 2080-2089 15 30; 208A 15 2B; 208B 15 2212; 208C 15 3D;"
  , "208D-208E 15 28; 2090 15 61; 2091 15 65; 2092 15 6F; 2093 15 78; 2094 15 259; 2095 15"
  , "68; 2096-2099 15 6B; 209A 15 70; 209B-209C 15 73; 2100 4 61 2F 63; 2101 4 61 2F 73;"
  , "2102 B 63; 2103 4 B0 63:A; 2105 4 63 2F 6F; 2106 4 63 2F 75; 2107 A 25B; 2109 4 B0"
  , "66:A; 210A 5 67; 210B B 68; 210C B 68; 210D B 68; 210E 5 68; 210F 2 68 335; 2110 B 69;"
  , "2111 B 69; 2112 B 6C; 2113 5 6C; 2115 B 6E; 2116 A 6E 6F:4; 2119-211B B 70; 211C B 72;"
  , "211D B 72; 2120 14 73 6D; 2121 A 74 65 6C; 2122 14 74 6D; 2124 B 7A; 2128 B 7A;"
  , "212C-212D B 62; 212F 5 65; 2130-2131 B 65; 2133 B 6D; 2134 5 6F; 2135-2138 4 5D0; 2139"
  , "5 69; 213B A 66 61 78; 213C 5 3C0; 213D 5 3B3; 213E B 3B3; 213F B 3C0; 2140 5 2211;"
  , "2145 B 64; 2146-2147 5 64; 2148-2149 5 69; 214D A 61 2F:4 73; 2150 1E 31 2044 37; 2151"
  , "1E 31 2044 39; 2152 1E 31 2044 31 30; 2153 1E 31 2044 33; 2154 1E 32 2044 33; 2155 1E"
  , "31 2044 35; 2156 1E 32 2044 35; 2157 1E 33 2044 35; 2158 1E 34 2044 35; 2159 1E 31"
  , "2044 36; 215A 1E 35 2044 36; 215B 1E 31 2044 38; 215C 1E 33 2044 38; 215D 1E 35 2044"
  , "38; 215E 1E 37 2044 38; 215F 1E 31 2044; 2170 4 69; 2171 4 69 69; 2172 4 69 69 69;"
  , "2173 4 69 76; 2174 4 76; 2175 4 76 69; 2176 4 76 69 69; 2177 4 76 69 69 69; 2178 4 69"
  , "78; 2179 4 78; 217A 4 78 69; 217B 4 78 69 69; 217C 4 6C; 217D-217E 4 63; 217F 4 6D;"
  , "2185 2 36; 2189 1E 30 2044 33; 222C 4 222B 222B; 222D 4 222B 222B 222B; 222F 4 222E"
  , "222E; 2230 4 222E 222E 222E; 2460-2468 6 31; 2469 6 31 30; 246A 6 31 31; 246B 6 31 32;"
  , "246C 6 31 33; 246D 6 31 34; 246E 6 31 35; 246F 6 31 36; 2470 6 31 37; 2471 6 31 38;"
  , "2472 6 31 39; 2473 6 32 30; 2474 4 28 31 29; 2475 4 28 32 29; 2476 4 28 33 29; 2477 4"
  , "28 34 29; 2478 4 28 35 29; 2479 4 28 36 29; 247A 4 28 37 29; 247B 4 28 38 29; 247C 4"
  , "28 39 29; 247D 4 28 31 30 29; 247E 4 28 31 31 29; 247F 4 28 31 32 29; 2480 4 28 31 33"
  , "29; 2481 4 28 31 34 29; 2482 4 28 31 35 29; 2483 4 28 31 36 29; 2484 4 28 31 37 29;"
  , "2485 4 28 31 38 29; 2486 4 28 31 39 29; 2487 4 28 32 30 29; 2488 4 31 2E; 2489 4 32"
  , "2E; 248A 4 33 2E; 248B 4 34 2E; 248C 4 35 2E; 248D 4 36 2E; 248E 4 37 2E; 248F 4 38"
  , "2E; 2490 4 39 2E; 2491 4 31 30 2E; 2492 4 31 31 2E; 2493 4 31 32 2E; 2494 4 31 33 2E;"
  , "2495 4 31 34 2E; 2496 4 31 35 2E; 2497 4 31 36 2E; 2498 4 31 37 2E; 2499 4 31 38 2E;"
  , "249A 4 31 39 2E; 249B 4 32 30 2E; 249C 4 28 61 29; 249D 4 28 62 29; 249E 4 28 63 29;"
  , "249F 4 28 64 29; 24A0 4 28 65 29; 24A1 4 28 66 29; 24A2 4 28 67 29; 24A3 4 28 68 29;"
  , "24A4 4 28 69 29; 24A5 4 28 6A 29; 24A6 4 28 6B 29; 24A7 4 28 6C 29; 24A8 4 28 6D 29;"
  , "24A9 4 28 6E 29; 24AA 4 28 6F 29; 24AB 4 28 70 29; 24AC 4 28 71 29; 24AD 4 28 72 29;"
  , "24AE 4 28 73 29; 24AF 4 28 74 29; 24B0 4 28 75 29; 24B1 4 28 76 29; 24B2 4 28 77 29;"
  , "24B3 4 28 78 29; 24B4 4 28 79 29; 24B5 4 28 7A 29; 24D0-24E9 6 61; 24EA 6 30; 24EB 6"
  , "31 31; 24EC 6 31 32; 24ED 6 31 33; 24EE 6 31 34; 24EF 6 31 35; 24F0 6 31 36; 24F1 6 31"
  , "37; 24F2 6 31 38; 24F3 6 31 39; 24F4 6 32 30; 24F5-24FD 6 31; 24FE 6 31 30; 24FF 6 30;"
  , "2776-277E 6 31; 277F 6 31 30; 2780-2788 6 31; 2789 6 31 30; 278A-2792 6 31; 2793 6 31"
  , "30; 2A0C 4 222B 222B 222B 222B; 2A74 4 3A 3A 3D; 2A75 4 3D 3D; 2A76 4 3D 3D 3D; 2C7C"
  , "15 6A; 2C7D 1D 76; 2CE4 4 2C95 2C81 2C93; 2DE0-2DE3 4 431; 2DE4-2DE5 4 436; 2DE6-2DEE"
  , "4 43A; 2DEF-2DF3 4 445; 2DF4 4 473; 2DF5 4 441 442; 2DF6 4 430; 2DF7 4 435; 2DF8 4"
  , "A649; 2DF9 4 A64B; 2DFA 4 463; 2DFB 4 44E; 2DFC 4 A657; 2DFD 4 467; 2DFE 4 46B; 2DFF 4"
  , "46D; 2E80 4 4E36 /118; 2E81 4 5382 /118; 2E82 4 4E5B; 2E83 4 4E5A; 2E84 4 4E59 /118;"
  , "2E85 4 4EBB; 2E86 4 5182 /118; 2E87 4 51E0 /118; 2E88 4 5200 /118; 2E89 4 5202; 2E8A 4"
  , "535C /118; 2E8B 4 5369 /118; 2E8C 4 5C0F /118; 2E8D 4 5C0F /119; 2E8E 4 5C22 /118;"
  , "2E8F 4 5C23; 2E90 4 5C22; 2E91 4 5C23 /118; 2E92 4 5DF3; 2E93 4 5E7A; 2E94 4 5F51;"
  , "2E95 4 5F50 /118; 2E96 4 5FC4; 2E97 4 5FC3 /118; 2E98 4 624C; 2E99 4 6535; 2E9B 4"
  , "65E1; 2E9C 4 65E5 /118; 2E9D 4 6708 /118; 2E9E 4 6B7A /118; 2E9F 4 6BCD; 2EA0 4 6C11;"
  , "2EA1 4 6C35; 2EA2 4 6C3A; 2EA3 4 706C; 2EA4 4 722B; 2EA5 4 722B /118; 2EA6 4 4E2C;"
  , "2EA7 4 725B /118; 2EA8 4 72AD; 2EA9 4 738B /118; 2EAA 4 758B /118; 2EAB 4 76EE /118;"
  , "2EAC 4 793A /118; 2EAD 4 793B; 2EAE 4 7AF9 /118; 2EAF 4 7CF9; 2EB0 4 7E9F; 2EB1 4"
  , "7F53; 2EB2 4 7F52; 2EB3 4 7F53 /118; 2EB4 4 7F53 /119; 2EB5 4 7F52 /118; 2EB6 4 7F8A"
  , "/118; 2EB7 4 7F8A /119; 2EB8 4 7F8B; 2EB9 4 8002; 2EBA 4 8080; 2EBB 4 807F /118; 2EBC"
  , "4 8089 /118; 2EBD 4 81FC /118; 2EBE 4 8279; 2EBF 4 8279 /118; 2EC0 4 8279 /119; 2EC1 4"
  , "864E; 2EC2 4 8864; 2EC3 4 8980; 2EC4 4 897F; 2EC5 4 89C1; 2EC6 4 89D2; 2EC7 4 89D2"
  , "/118; 2EC8 4 8BA0; 2EC9 4 8D1D; 2ECA 4 8DB3 /118; 2ECB 4 8F66; 2ECC 4 8FB6; 2ECD 4"
  , "8FB6 /118; 2ECE 4 8FB6 /119; 2ECF 4 9091 /118; 2ED0 4 9485; 2ED1-2ED2 4 9577; 2ED3 4"
  , "957F; 2ED4 4 95E8; 2ED5 4 961C /118; 2ED6 4 961D; 2ED7 4 96E8 /118; 2ED8 4 9752; 2ED9"
  , "4 97E6; 2EDA 4 9875; 2EDB 4 98CE; 2EDC-2EDD 4 98DE; 2EDE 4 98E0 /118; 2EDF 4 98E0;"
  , "2EE0 4 9963; 2EE1 4 9996 /118; 2EE2 4 9A6C; 2EE3 4 9AA8 /118; 2EE4 4 9B3C /118; 2EE5 4"
  , "9C7C; 2EE6 4 9E1F; 2EE7 4 9E75 /118; 2EE8 4 9EA6; 2EE9 4 9EC4; 2EEA 4 9EFE; 2EEB 4"
  , "9F4A /118; 2EEC 4 9F50; 2EED 4 9F52 /118; 2EEE 4 9F7F; 2EEF 4 9F8D /118; 2EF0 4 9F99;"
  , "2EF1 4 9F9C /118; 2EF2 4 9F9C /119; 2EF3 4 9F9F; 2F00 4 4E00; 2F01 4 4E28; 2F02 4"
  , "4E36; 2F03 4 4E3F; 2F04 4 4E59; 2F05 4 4E85; 2F06 4 4E8C; 2F07 4 4EA0; 2F08 4 4EBA;"
  , "2F09 4 513F; 2F0A 4 5165; 2F0B 4 516B; 2F0C 4 5182; 2F0D 4 5196; 2F0E 4 51AB; 2F0F 4"
  , "51E0; 2F10 4 51F5; 2F11 4 5200; 2F12 4 529B; 2F13 4 52F9; 2F14 4 5315; 2F15 4 531A;"
  , "2F16 4 5338; 2F17 4 5341; 2F18 4 535C; 2F19 4 5369; 2F1A 4 5382; 2F1B 4 53B6; 2F1C 4"
  , "53C8; 2F1D 4 53E3; 2F1E 4 56D7; 2F1F 4 571F; 2F20 4 58EB; 2F21 4 5902; 2F22 4 590A;"
  , "2F23 4 5915; 2F24 4 5927; 2F25 4 5973; 2F26 4 5B50; 2F27 4 5B80; 2F28 4 5BF8; 2F29 4"
  , "5C0F; 2F2A 4 5C22; 2F2B 4 5C38; 2F2C 4 5C6E; 2F2D 4 5C71; 2F2E 4 5DDB; 2F2F 4 5DE5;"
  , "2F30 4 5DF1; 2F31 4 5DFE; 2F32 4 5E72; 2F33 4 5E7A; 2F34 4 5E7F; 2F35 4 5EF4; 2F36 4"
  , "5EFE; 2F37 4 5F0B; 2F38 4 5F13; 2F39 4 5F50; 2F3A 4 5F61; 2F3B 4 5F73; 2F3C 4 5FC3;"
  , "2F3D 4 6208; 2F3E 4 6236; 2F3F 4 624B; 2F40 4 652F; 2F41 4 6534; 2F42 4 6587; 2F43 4"
  , "6597; 2F44 4 65A4; 2F45 4 65B9; 2F46 4 65E0; 2F47 4 65E5; 2F48 4 66F0; 2F49 4 6708;"
  , "2F4A 4 6728; 2F4B 4 6B20; 2F4C 4 6B62; 2F4D 4 6B79; 2F4E 4 6BB3; 2F4F 4 6BCB; 2F50 4"
  , "6BD4; 2F51 4 6BDB; 2F52 4 6C0F; 2F53 4 6C14; 2F54 4 6C34; 2F55 4 706B; 2F56 4 722A;"
  , "2F57 4 7236; 2F58 4 723B; 2F59 4 723F; 2F5A 4 7247; 2F5B 4 7259; 2F5C 4 725B; 2F5D 4"
  , "72AC; 2F5E 4 7384; 2F5F 4 7389; 2F60 4 74DC; 2F61 4 74E6; 2F62 4 7518; 2F63 4 751F;"
  , "2F64 4 7528; 2F65 4 7530; 2F66 4 758B; 2F67 4 7592; 2F68 4 7676; 2F69 4 767D; 2F6A 4"
  , "76AE; 2F6B 4 76BF; 2F6C 4 76EE; 2F6D 4 77DB; 2F6E 4 77E2; 2F6F 4 77F3; 2F70 4 793A;"
  , "2F71 4 79B8; 2F72 4 79BE; 2F73 4 7A74; 2F74 4 7ACB; 2F75 4 7AF9; 2F76 4 7C73; 2F77 4"
  , "7CF8; 2F78 4 7F36; 2F79 4 7F51; 2F7A 4 7F8A; 2F7B 4 7FBD; 2F7C 4 8001; 2F7D 4 800C;"
  , "2F7E 4 8012; 2F7F 4 8033; 2F80 4 807F; 2F81 4 8089; 2F82 4 81E3; 2F83 4 81EA; 2F84 4"
  , "81F3; 2F85 4 81FC; 2F86 4 820C; 2F87 4 821B; 2F88 4 821F; 2F89 4 826E; 2F8A 4 8272;"
  , "2F8B 4 8278; 2F8C 4 864D; 2F8D 4 866B; 2F8E 4 8840; 2F8F 4 884C; 2F90 4 8863; 2F91 4"
  , "897E; 2F92 4 898B; 2F93 4 89D2; 2F94 4 8A00; 2F95 4 8C37; 2F96 4 8C46; 2F97 4 8C55;"
  , "2F98 4 8C78; 2F99 4 8C9D; 2F9A 4 8D64; 2F9B 4 8D70; 2F9C 4 8DB3; 2F9D 4 8EAB; 2F9E 4"
  , "8ECA; 2F9F 4 8F9B; 2FA0 4 8FB0; 2FA1 4 8FB5; 2FA2 4 9091; 2FA3 4 9149; 2FA4 4 91C6;"
  , "2FA5 4 91CC; 2FA6 4 91D1; 2FA7 4 9577; 2FA8 4 9580; 2FA9 4 961C; 2FAA 4 96B6; 2FAB 4"
  , "96B9; 2FAC 4 96E8; 2FAD 4 9751; 2FAE 4 975E; 2FAF 4 9762; 2FB0 4 9769; 2FB1 4 97CB;"
  , "2FB2 4 97ED; 2FB3 4 97F3; 2FB4 4 9801; 2FB5 4 98A8; 2FB6 4 98DB; 2FB7 4 98DF; 2FB8 4"
  , "9996; 2FB9 4 9999; 2FBA 4 99AC; 2FBB 4 9AA8; 2FBC 4 9AD8; 2FBD 4 9ADF; 2FBE 4 9B25;"
  , "2FBF 4 9B2F; 2FC0 4 9B32; 2FC1 4 9B3C; 2FC2 4 9B5A; 2FC3 4 9CE5; 2FC4 4 9E75; 2FC5 4"
  , "9E7F; 2FC6 4 9EA5; 2FC7 4 9EBB; 2FC8 4 9EC3; 2FC9 4 9ECD; 2FCA 4 9ED1; 2FCB 4 9EF9;"
  , "2FCC 4 9EFD; 2FCD 4 9F0E; 2FCE 4 9F13; 2FCF 4 9F20; 2FD0 4 9F3B; 2FD1 4 9F4A; 2FD2 4"
  , "9F52; 2FD3 4 9F8D; 2FD4 4 9F9C; 2FD5 4 9FA0; 3000 3 20; 3006 4 3057 3081; 3007 2 30;"
  , "3021-3029 2 31; 3032 2 3031 3099; 3034 2 3033 3099; 3036 4 3012; 3038 4 5341;"
  , "3039-303A 4 5344; 303C 4 307E 3059; 3041 D 3041; 3042 E 3041; 3043 D 3043; 3044 E"
  , "3043; 3045 D 3045; 3046 E 3045; 3047 D 3047; 3048 E 3047; 3049 D 3049; 304A E 3049;"
  , "304B E 3095; 304D E 304D; 304F E 304F; 3051 E 3096; 3053 E 3053; 3055 E 3055; 3057 E"
  , "3057; 3059 E 3059; 305B E 305B; 305D E 305D; 305F E 305F; 3061 E 3061; 3063 D 3063;"
  , "3064 E 3063; 3066 E 3066; 3068 E 3068; 306A-306F E 306A; 3072 E 3072; 3075 E 3075;"
  , "3078 E 3078; 307B E 307B; 307E-3082 E 307E; 3083 D 3083; 3084 E 3083; 3085 D 3085;"
  , "3086 E 3085; 3087 D 3087; 3088 E 3087; 3089-308D E 3089; 308E D 308E; 308F E 308E;"
  , "3090-3092 E 1B150; 3093 E 3093; 3095-3096 D 3095; 309F 16 3087 308A; 30A1 F 3041; 30A2"
  , "11 3041; 30A3 F 3043; 30A4 11 3043; 30A5 F 3045; 30A6 11 3045; 30A7 F 3047; 30A8 11"
  , "3047; 30A9 F 3049; 30AA 11 3049; 30AB 11 3095; 30AD 11 304D; 30AF 11 304F; 30B1 11"
  , "3096; 30B3 11 3053; 30B5 11 3055; 30B7 11 3057; 30B9 11 3059; 30BB 11 305B; 30BD 11"
  , "305D; 30BF 11 305F; 30C1 11 3061; 30C3 F 3063; 30C4 11 3063; 30C6 11 3066; 30C8 11"
  , "3068; 30CA-30CF 11 306A; 30D2 11 3072; 30D5 11 3075; 30D8 11 3078; 30DB 11 307B;"
  , "30DE-30E2 11 307E; 30E3 F 3083; 30E4 11 3083; 30E5 F 3085; 30E6 11 3085; 30E7 F 3087;"
  , "30E8 11 3087; 30E9-30ED 11 3089; 30EE F 308E; 30EF 11 308E; 30F0-30F2 11 1B150; 30F3"
  , "11 3093; 30F5-30F6 F 3095; 30FF 16 3053 3068; 312E 4 311C; 3131-3132 4 1100; 3133 4"
  , "11AA; 3134 4 1102; 3135-3136 4 11AC; 3137-3139 4 1103; 313A-313F 4 11B0; 3140 4 111A;"
  , "3141-3143 4 1106; 3144 4 1121; 3145-314E 4 1109; 314F-3163 4 1161; 3164 4 1160;"
  , "3165-3166 4 1114; 3167-3168 4 11C7; 3169 4 11CC; 316A 4 11CE; 316B 4 11D3; 316C 4"
  , "11D7; 316D 4 11D9; 316E 4 111C; 316F 4 11DD; 3170 4 11DF; 3171-3172 4 111D; 3173 4"
  , "1120; 3174-3175 4 1122; 3176 4 1127; 3177 4 1129; 3178-317C 4 112B; 317D 4 1132; 317E"
  , "4 1136; 317F 4 1140; 3180 4 1147; 3181 4 114C; 3182-3183 4 11F1; 3184-3186 4 1157;"
  , "3187-3188 4 1184; 3189 4 1188; 318A-318B 4 1191; 318C 4 1194; 318D 4 119E; 318E 4"
  , "11A1; 3192 14 4E00; 3193 14 4E8C; 3194 14 4E09; 3195 14 56DB; 3196 14 4E0A; 3197 14"
  , "4E2D; 3198 14 4E0B; 3199 14 7532; 319A 14 4E59; 319B 14 4E19; 319C 14 4E01; 319D 14"
  , "5929; 319E 14 5730; 319F 14 4EBA; 31A0 4 3105 /119; 31A1 4 3117 /119; 31A2 4 3110"
  , "/119; 31A3 4 310D /119; 31A5 4 31A4 /119; 31A7 4 311B /119; 31A8 4 3128 /11A; 31A9 4"
  , "311A /119; 31AA 4 3127 /119; 31AB 4 3128 /119; 31AE 4 311E /119; 31AF 4 3120 /119;"
  , "31B3 16 3127 /119; 31B4 19 3106; 31B5 19 310A; 31B6-31B7 19 310E; 31BB 19 310D; 31F0 F"
  , "304F; 31F1 F 3057; 31F2 F 3059; 31F3 F 3068; 31F4 F 306C; 31F5 F 306F; 31F6 F 3072;"
  , "31F7 F 3075; 31F8 F 3078; 31F9 F 307B; 31FA F 3080; 31FB-31FF F 3089; 3200 4 28 1100"
  , "29; 3201 4 28 1102 29; 3202 4 28 1103 29; 3203 4 28 1105 29; 3204 4 28 1106 29; 3205 4"
  , "28 1107 29; 3206 4 28 1109 29; 3207 4 28 110B 29; 3208 4 28 110C 29; 3209 4 28 110E"
  , "29; 320A 4 28 110F 29; 320B 4 28 1110 29; 320C 4 28 1111 29; 320D 4 28 1112 29; 320E 4"
  , "28 1100 1161 29; 320F 4 28 1102 1161 29; 3210 4 28 1103 1161 29; 3211 4 28 1105 1161"
  , "29; 3212 4 28 1106 1161 29; 3213 4 28 1107 1161 29; 3214 4 28 1109 1161 29; 3215 4 28"
  , "110B 1161 29; 3216 4 28 110C 1161 29; 3217 4 28 110E 1161 29; 3218 4 28 110F 1161 29;"
  , "3219 4 28 1110 1161 29; 321A 4 28 1111 1161 29; 321B 4 28 1112 1161 29; 321C 4 28 110C"
  , "116E 29; 321D 4 28 110B 1169 110C 1165 11AB 29; 321E 4 28 110B 1169 1112 116E 29; 3220"
  , "4 28 4E00 29; 3221 4 28 4E8C 29; 3222 4 28 4E09 29; 3223 4 28 56DB 29; 3224 4 28 4E94"
  , "29; 3225 4 28 516D 29; 3226 4 28 4E03 29; 3227 4 28 516B 29; 3228 4 28 4E5D 29; 3229 4"
  , "28 5341 29; 322A 4 28 6708 29; 322B 4 28 706B 29; 322C 4 28 6C34 29; 322D 4 28 6728"
  , "29; 322E 4 28 91D1 29; 322F 4 28 571F 29; 3230 4 28 65E5 29; 3231 4 28 682A 29; 3232 4"
  , "28 6709 29; 3233 4 28 793E 29; 3234 4 28 540D 29; 3235 4 28 7279 29; 3236 4 28 8CA1"
  , "29; 3237 4 28 795D 29; 3238 4 28 52B4 29; 3239 4 28 4EE3 29; 323A 4 28 547C 29; 323B 4"
  , "28 5B66 29; 323C 4 28 76E3 29; 323D 4 28 4F01 29; 323E 4 28 8CC7 29; 323F 4 28 5354"
  , "29; 3240 4 28 796D 29; 3241 4 28 4F11 29; 3242 4 28 81EA 29; 3243 4 28 81F3 29; 3244 6"
  , "554F; 3245 6 5E7C; 3246 6 6587; 3247 6 7B8F; 3248 6 31 30; 3249 6 32 30; 324A 6 33 30;"
  , "324B 6 34 30; 324C 6 35 30; 324D 6 36 30; 324E 6 37 30; 324F 6 38 30; 3250 1D 70 74"
  , "65; 3251 6 32 31; 3252 6 32 32; 3253 6 32 33; 3254 6 32 34; 3255 6 32 35; 3256 6 32"
  , "36; 3257 6 32 37; 3258 6 32 38; 3259 6 32 39; 325A 6 33 30; 325B 6 33 31; 325C 6 33"
  , "32; 325D 6 33 33; 325E 6 33 34; 325F 6 33 35; 3260 6 1100; 3261-3262 6 1102; 3263-3265"
  , "6 1105; 3266 6 1109; 3267-3268 6 110B; 3269-326D 6 110E; 326E 6 1100 1161; 326F 6 1102"
  , "1161; 3270 6 1103 1161; 3271 6 1105 1161; 3272 6 1106 1161; 3273 6 1107 1161; 3274 6"
  , "1109 1161; 3275 6 110B 1161; 3276 6 110C 1161; 3277 6 110E 1161; 3278 6 110F 1161;"
  , "3279 6 1110 1161; 327A 6 1111 1161; 327B 6 1112 1161; 327C 6 110E 1161 11B7 1100 1169;"
  , "327D 6 110C 116E 110B 1174; 327E 6 110B 116E; 3280 6 4E00; 3281 6 4E8C; 3282 6 4E09;"
  , "3283 6 56DB; 3284 6 4E94; 3285 6 516D; 3286 6 4E03; 3287 6 516B; 3288 6 4E5D; 3289 6"
  , "5341; 328A 6 6708; 328B 6 706B; 328C 6 6C34; 328D 6 6728; 328E 6 91D1; 328F 6 571F;"
  , "3290 6 65E5; 3291 6 682A; 3292 6 6709; 3293 6 793E; 3294 6 540D; 3295 6 7279; 3296 6"
  , "8CA1; 3297 6 795D; 3298 6 52B4; 3299 6 79D8; 329A 6 7537; 329B 6 5973; 329C 6 9069;"
  , "329D 6 512A; 329E 6 5370; 329F 6 6CE8; 32A0 6 9805; 32A1 6 4F11; 32A2 6 5199; 32A3 6"
  , "6B63; 32A4 6 4E0A; 32A5 6 4E2D; 32A6 6 4E0B; 32A7 6 5DE6; 32A8 6 53F3; 32A9 6 533B;"
  , "32AA 6 5B97; 32AB 6 5B66; 32AC 6 76E3; 32AD 6 4F01; 32AE 6 8CC7; 32AF 6 5354; 32B0 6"
  , "591C; 32B1 6 33 36; 32B2 6 33 37; 32B3 6 33 38; 32B4 6 33 39; 32B5 6 34 30; 32B6 6 34"
  , "31; 32B7 6 34 32; 32B8 6 34 33; 32B9 6 34 34; 32BA 6 34 35; 32BB 6 34 36; 32BC 6 34"
  , "37; 32BD 6 34 38; 32BE 6 34 39; 32BF 6 35 30; 32C0 4 31 6708; 32C1 4 32 6708; 32C2 4"
  , "33 6708; 32C3 4 34 6708; 32C4 4 35 6708; 32C5 4 36 6708; 32C6 4 37 6708; 32C7 4 38"
  , "6708; 32C8 4 39 6708; 32C9 4 31 30 6708; 32CA 4 31 31 6708; 32CB 4 31 32 6708; 32CC 1D"
  , "68 67:1C; 32CD 1C 65 72 67; 32CE 1C 65 76:1D; 32CF 1D 6C 74 64; 32D0 13 3041; 32D1 13"
  , "3043; 32D2 13 3045; 32D3 13 3047; 32D4 13 3049; 32D5 13 3095; 32D6 13 304D; 32D7 13"
  , "304F; 32D8 13 3096; 32D9 13 3053; 32DA 13 3055; 32DB 13 3057; 32DC 13 3059; 32DD 13"
  , "305B; 32DE 13 305D; 32DF 13 305F; 32E0 13 3061; 32E1 13 3063; 32E2 13 3066; 32E3 13"
  , "3068; 32E4-32E9 13 306A; 32EA 13 3072; 32EB 13 3075; 32EC 13 3078; 32ED 13 307B;"
  , "32EE-32F3 13 307E; 32F4 13 3085; 32F5 13 3087; 32F6-32FB 13 3089; 32FC-32FE 13 1B150;"
  , "32FF 1C 4EE4 548C; 3300 1C 3041 306F 309A 30FC 3068; 3301 1C 3041 308B 3075 3041; 3302"
  , "1C 3041 3093 3078 309A 3041; 3303 1C 3041 30FC 308B; 3304 1C 3043 306B 3093 304F 3099;"
  , "3305 1C 3043 3093 3061; 3306 1C 3045 3049 3093; 3307 1C 3047 3059 304F 30FC 3068 3099;"
  , "3308 1C 3047 30FC 3095 30FC; 3309 1C 3049 3093 3059; 330A 1C 3049 30FC 3080; 330B 1C"
  , "3095 3043 308A; 330C 1C 3095 3089 3063 3068; 330D 1C 3095 308D 308A 30FC; 330E 1C 3095"
  , "3099 308D 3093; 330F 1C 3095 3099 3093 307E; 3310 1C 304D 3099 3095 3099; 3311 1C 304D"
  , "3099 306B 30FC; 3312 1C 304D 3085 308A 30FC; 3313 1C 304D 3099 308B 305F 3099 30FC;"
  , "3314 1C 304D 308D; 3315 1C 304D 308D 304F 3099 3089 3080; 3316 1C 304D 308D 3081 30FC"
  , "3068 308B; 3317 1C 304D 308D 308E 3063 3068; 3318 1C 304F 3099 3089 3080; 3319 1C 304F"
  , "3099 3089 3080 3068 3093; 331A 1C 304F 308B 305B 3099 3043 308D; 331B 1C 304F 308D"
  , "30FC 306D; 331C 1C 3096 30FC 3059; 331D 1C 3053 308B 306A; 331E 1C 3053 30FC 307B"
  , "309A; 331F 1C 3055 3043 304F 308B; 3320 1C 3055 3093 3061 30FC 3080; 3321 1C 3057 308A"
  , "3093 304F 3099; 3322 1C 305B 3093 3061; 3323 1C 305B 3093 3068; 3324 1C 305F 3099 30FC"
  , "3059; 3325 1C 3066 3099 3057; 3326 1C 3068 3099 308B; 3327 1C 3068 3093; 3328 1C 306A"
  , "306E; 3329 1C 306E 3063 3068; 332A 1C 306F 3043 3063; 332B 1C 306F 309A 30FC 305B 3093"
  , "3068; 332C 1C 306F 309A 30FC 3063; 332D 1C 306F 3099 30FC 308C 308B; 332E 1C 3072 309A"
  , "3041 3059 3068 308B; 332F 1C 3072 309A 304F 308B; 3330 1C 3072 309A 3053; 3331 1C 3072"
  , "3099 308B; 3332 1C 3075 3041 3089 3063 3068 3099; 3333 1C 3075 3043 30FC 3068; 3334 1C"
  , "3075 3099 3063 3057 3047 308B; 3335 1C 3075 3089 3093; 3336 1C 3078 304F 305F 30FC"
  , "308B; 3337 1C 3078 309A 305D; 3338 1C 3078 309A 306B 3072; 3339 1C 3078 308B 3063;"
  , "333A 1C 3078 309A 3093 3059; 333B 1C 3078 309A 30FC 3057 3099; 333C 1C 3078 3099 30FC"
  , "305F; 333D 1C 307B 309A 3043 3093 3068; 333E 1C 307B 3099 308B 3068; 333F 1C 307B"
  , "3093; 3340 1C 307B 309A 3093 3068 3099; 3341 1C 307B 30FC 308B; 3342 1C 307B 30FC"
  , "3093; 3343 1C 307E 3043 304F 308D; 3344 1C 307E 3043 308B; 3345 1C 307E 3063 306F;"
  , "3346 1C 307E 308B 304F; 3347 1C 307E 3093 3057 3087 3093; 3348 1C 307F 304F 308D 3093;"
  , "3349 1C 307F 308A; 334A 1C 307F 308A 306F 3099 30FC 308B; 334B 1C 3081 3095 3099; 334C"
  , "1C 3081 3095 3099 3068 3093; 334D 1C 3081 30FC 3068 308B; 334E 1C 3083 30FC 3068 3099;"
  , "334F 1C 3083 30FC 308B; 3350 1C 3085 3041 3093; 3351 1C 308A 3063 3068 308B; 3352 1C"
  , "308A 3089; 3353 1C 308B 3072 309A 30FC; 3354 1C 308B 30FC 3075 3099 308B; 3355 1C 308C"
  , "3080; 3356 1C 308C 3093 3068 3096 3099 3093; 3357 1C 308E 3063 3068; 3358 4 30 70B9;"
  , "3359 4 31 70B9; 335A 4 32 70B9; 335B 4 33 70B9; 335C 4 34 70B9; 335D 4 35 70B9; 335E 4"
  , "36 70B9; 335F 4 37 70B9; 3360 4 38 70B9; 3361 4 39 70B9; 3362 4 31 30 70B9; 3363 4 31"
  , "31 70B9; 3364 4 31 32 70B9; 3365 4 31 33 70B9; 3366 4 31 34 70B9; 3367 4 31 35 70B9;"
  , "3368 4 31 36 70B9; 3369 4 31 37 70B9; 336A 4 31 38 70B9; 336B 4 31 39 70B9; 336C 4 32"
  , "30 70B9; 336D 4 32 31 70B9; 336E 4 32 32 70B9; 336F 4 32 33 70B9; 3370 4 32 34 70B9;"
  , "3371 1C 68 70:1D 61; 3372 1C 64 61; 3373 1D 61 75; 3374 1C 62 61 72; 3375 1C 6F 76:1D;"
  , "3376 1C 70 63; 3377 1C 64 6D; 3378 1C 64 6D 32; 3379 1C 64 6D 33; 337A 1D 69 75; 337B"
  , "1C 5E73 6210; 337C 1C 662D 548C; 337D 1C 5927 6B63; 337E 1C 660E 6CBB; 337F 1C 682A"
  , "5F0F 4F1A 793E; 3380 1C 70 61:1D; 3381 1C 6E 61:1D; 3382 1C 3BC 61:1D; 3383 1C 6D"
  , "61:1D; 3384 1C 6B 61:1D; 3385 1D 6B 62; 3386 1D 6D 62; 3387 1D 67 62; 3388 1C 63 61"
  , "6C; 3389 1C 6B 63 61 6C; 338A 1C 70 66:1D; 338B 1C 6E 66:1D; 338C 1C 3BC 66:1D; 338D"
  , "1C 3BC 67; 338E 1C 6D 67; 338F 1C 6B 67; 3390 1D 68 7A:1C; 3391 1C 6B 68:1D 7A; 3392"
  , "1D 6D 68 7A:1C; 3393 1D 67 68 7A:1C; 3394 1D 74 68 7A:1C; 3395 1C 3BC 6C; 3396 1C 6D"
  , "6C; 3397 1C 64 6C; 3398 1C 6B 6C; 3399 1C 66 6D; 339A 1C 6E 6D; 339B 1C 3BC 6D; 339C"
  , "1C 6D 6D; 339D 1C 63 6D; 339E 1C 6B 6D; 339F 1C 6D 6D 32; 33A0 1C 63 6D 32; 33A1 1C 6D"
  , "32; 33A2 1C 6B 6D 32; 33A3 1C 6D 6D 33; 33A4 1C 63 6D 33; 33A5 1C 6D 33; 33A6 1C 6B 6D"
  , "33; 33A7 1C 6D 2215 73; 33A8 1C 6D 2215 73 32; 33A9 1D 70 61:1C; 33AA 1C 6B 70:1D 61;"
  , "33AB 1D 6D 70 61:1C; 33AC 1D 67 70 61:1C; 33AD 1C 72 61 64; 33AE 1C 72 61 64 2215 73;"
  , "33AF 1C 72 61 64 2215 73 32; 33B0 1C 70 73; 33B1 1C 6E 73; 33B2 1C 3BC 73; 33B3 1C 6D"
  , "73; 33B4 1C 70 76:1D; 33B5 1C 6E 76:1D; 33B6 1C 3BC 76:1D; 33B7 1C 6D 76:1D; 33B8 1C"
  , "6B 76:1D; 33B9 1D 6D 76; 33BA 1C 70 77:1D; 33BB 1C 6E 77:1D; 33BC 1C 3BC 77:1D; 33BD"
  , "1C 6D 77:1D; 33BE 1C 6B 77:1D; 33BF 1D 6D 77; 33C0 1C 6B 3C9:1D; 33C1 1D 6D 3C9; 33C2"
  , "1C 61 2E 6D 2E; 33C3 1D 62 71:1C; 33C4 1C 63 63; 33C5 1C 63 64; 33C6 1C 63:1D 2215 6B"
  , "67; 33C7 1C 63:1D 6F 2E; 33C8 1C 64 62:1D; 33C9 1D 67 79:1C; 33CA 1C 68 61; 33CB 1D 68"
  , "70; 33CC 1C 69 6E; 33CD 1D 6B 6B; 33CE 1D 6B 6D; 33CF 1C 6B 74; 33D0 1C 6C 6D; 33D1 1C"
  , "6C 6E; 33D2 1C 6C 6F 67; 33D3 1C 6C 78; 33D4 1C 6D 62; 33D5 1C 6D 69 6C; 33D6 1C 6D 6F"
  , "6C; 33D7 1D 70 68; 33D8 1C 70 2E 6D 2E; 33D9 1D 70 70 6D; 33DA 1D 70 72; 33DB 1C 73"
  , "72; 33DC 1D 73 76:1C; 33DD 1D 77 62:1C; 33DE 1C 76:1D 2215 6D; 33DF 1C 61:1D 2215 6D;"
  , "33E0 4 31 65E5; 33E1 4 32 65E5; 33E2 4 33 65E5; 33E3 4 34 65E5; 33E4 4 35 65E5; 33E5 4"
  , "36 65E5; 33E6 4 37 65E5; 33E7 4 38 65E5; 33E8 4 39 65E5; 33E9 4 31 30 65E5; 33EA 4 31"
  , "31 65E5; 33EB 4 31 32 65E5; 33EC 4 31 33 65E5; 33ED 4 31 34 65E5; 33EE 4 31 35 65E5;"
  , "33EF 4 31 36 65E5; 33F0 4 31 37 65E5; 33F1 4 31 38 65E5; 33F2 4 31 39 65E5; 33F3 4 32"
  , "30 65E5; 33F4 4 32 31 65E5; 33F5 4 32 32 65E5; 33F6 4 32 33 65E5; 33F7 4 32 34 65E5;"
  , "33F8 4 32 35 65E5; 33F9 4 32 36 65E5; 33FA 4 32 37 65E5; 33FB 4 32 38 65E5; 33FC 4 32"
  , "39 65E5; 33FD 4 33 30 65E5; 33FE 4 33 31 65E5; 33FF 1C 67 61 6C; A610 4 A558; A611 4"
  , "A56A; A612 4 A587; A613 4 A50C A60B; A614 4 A51E A60B; A615 4 A533 A60B; A616 4 A547"
  , "A60C; A617 4 A552 A60B; A618 4 A558 A60C; A619 4 A55A A60C; A61A 4 A560 A60B; A61B 4"
  , "A585 A60B; A61C 4 A5B4 A60B; A61D 4 A5CB A60B; A61E 4 A5D1 A60C; A61F 4 A5D8 A60B;"
  , "A620-A629 2 30; A62A 4 A56E; A62B 4 A5D1; A669 4 43E; A66B 4 43E; A66D 4 43E; A66E 4"
  , "43E; A674 4 454; A675 4 438; A676 4 456 308; A677 4 443; A678-A67A 4 44A; A67B 4 461;"
  , "A699 4 43E; A69B 4 43E; A69C 14 44A; A69D 14 44C; A69E 4 444; A69F 4 465; A728 A 74"
  , "7A:4; A729 4 74 7A; A733 4 61 61; A735 4 61 6F; A737 4 61 75; A739 4 61 76; A73B 4 61"
  , "/118 76; A73D 4 61 79; A74F 4 6F 6F; A761 4 76 79; A770 14 A76F; A77A 4 64 /119; A77C"
  , "4 66 /119; A783 4 72 /119; A785 4 73 /119; A787 4 74 /119; A79B 4 61 308; A79D 4 6F"
  , "308; A79F 4 75 308; A7A1 4 67 336; A7A3 4 6B 336; A7A5 4 6E 336; A7A7 4 72 336; A7A9 4"
  , "73 336; A7F8 14 68 335; A7F9 14 6F /118 65; A8D0-A8D9 2 30; A8F3 4 A8F2; A8F4 4 A8F2;"
  , "A8F5 4 A8F2; A8F6 4 A8F2; A8F7 4 A8F2; A900-A909 2 30; A9AC 4 A9AB; A9B5 4 A9B4;"
  , "A9D0-A9D9 2 30; A9F0-A9F9 2 30; AA50-AA59 2 30; AB5C 14 A727; AB5D 14 AB37; AB5E 14"
  , "26B; AB5F 14 AB52; AB66 4 64 290; AB67 4 74 282; AB69 14 28D; ABF0-ABF9 2 30" ]

/-- Variants among presentation forms and wide characters. -/
def presentationVariants : List String :=
  [ "FA0E-FA0F 2 FA0E; FA11 2 FA11; FA13-FA14 2 FA13; FA1F 2 FA1F; FA21 2 FA21; FA23-FA24 2"
  , "FA23; FA27-FA29 2 FA27; FB00 4 66 66; FB01 4 66 69; FB02 4 66 6C; FB03 4 66 66 69;"
  , "FB04 4 66 66 6C; FB05 4 73 /119 74; FB06 4 73 74; FB13 4 574 576; FB14 4 574 565; FB15"
  , "4 574 56B; FB16 4 57E 576; FB17 4 574 56D; FB20 5 5E2; FB21 5 5D0; FB22-FB23 5 5D3;"
  , "FB24-FB25 5 5DB; FB26 5 5DE; FB27 5 5E8; FB28 5 5EA; FB29 5 2B; FB4F 4 5D0 5DC; FB50"
  , "1A 671; FB51 19 671; FB52 1A 67B; FB53 19 67B; FB54 17 67B; FB55 18 67B; FB56 1A 67E;"
  , "FB57 19 67E; FB58 17 67E; FB59 18 67E; FB5A 1A 680; FB5B 19 680; FB5C 17 680; FB5D 18"
  , "680; FB5E 1A 67A; FB5F 19 67A; FB60 17 67A; FB61 18 67A; FB62 1A 67F; FB63 19 67F;"
  , "FB64 17 67F; FB65 18 67F; FB66 1A 679; FB67 19 679; FB68 17 679; FB69 18 679; FB6A 1A"
  , "6A4; FB6B 19 6A4; FB6C 17 6A4; FB6D 18 6A4; FB6E 1A 6A6; FB6F 19 6A6; FB70 17 6A6;"
  , "FB71 18 6A6; FB72 1A 684; FB73 19 684; FB74 17 684; FB75 18 684; FB76 1A 683; FB77 19"
  , "683; FB78 17 683; FB79 18 683; FB7A 1A 686; FB7B 19 686; FB7C 17 686; FB7D 18 686;"
  , "FB7E 1A 687; FB7F 19 687; FB80 17 687; FB81 18 687; FB82 1A 68D; FB83 19 68D; FB84 1A"
  , "68C; FB85 19 68C; FB86 1A 68E; FB87 19 68E; FB88 1A 688; FB89 19 688; FB8A 1A 698;"
  , "FB8B 19 698; FB8C 1A 691; FB8D 19 691; FB8E 1A 6A9; FB8F 19 6A9; FB90 17 6A9; FB91 18"
  , "6A9; FB92 1A 6AF; FB93 19 6AF; FB94 17 6AF; FB95 18 6AF; FB96 1A 6B3; FB97 19 6B3;"
  , "FB98 17 6B3; FB99 18 6B3; FB9A 1A 6B1; FB9B 19 6B1; FB9C 17 6B1; FB9D 18 6B1; FB9E 1A"
  , "6BA; FB9F 19 6BA; FBA0 1A 6BB; FBA1 19 6BB; FBA2 17 6BB; FBA3 18 6BB; FBA4 1A 6D5 654;"
  , "FBA5 19 6D5 654; FBA6 1A 6C1; FBA7 19 6C1; FBA8 17 6C1; FBA9 18 6C1; FBAA 1A 6BE; FBAB"
  , "19 6BE; FBAC 17 6BE; FBAD 18 6BE; FBAE 1A 6D2; FBAF 19 6D2; FBB0 1A 6D2 654; FBB1 19"
  , "6D2 654; FBD3 1A 6AD; FBD4 19 6AD; FBD5 17 6AD; FBD6 18 6AD; FBD7 1A 6C7; FBD8 19 6C7;"
  , "FBD9 1A 6C6; FBDA 19 6C6; FBDB 1A 6C8; FBDC 19 6C8; FBDD 1A 6C7 621; FBDE 1A 6CB; FBDF"
  , "19 6CB; FBE0 1A 6C5; FBE1 19 6C5; FBE2 1A 6C9; FBE3 19 6C9; FBE4 1A 6D0; FBE5 19 6D0;"
  , "FBE6 17 6D0; FBE7 18 6D0; FBE8 17 649; FBE9 18 649; FBEA 1A 64A+654 627; FBEB 19"
  , "64A+654 627; FBEC 1A 64A+654 6D5; FBED 19 64A+654 6D5; FBEE 1A 64A+654 648; FBEF 19"
  , "64A+654 648; FBF0 1A 64A+654 6C7; FBF1 19 64A+654 6C7; FBF2 1A 64A+654 6C6; FBF3 19"
  , "64A+654 6C6; FBF4 1A 64A+654 6C8; FBF5 19 64A+654 6C8; FBF6 1A 64A+654 6D0; FBF7 19"
  , "64A+654 6D0; FBF8 17 64A+654 6D0; FBF9 1A 64A+654 649; FBFA 19 64A+654 649; FBFB 17"
  , "64A+654 649; FBFC 1A 6CC; FBFD 19 6CC; FBFE 17 6CC; FBFF 18 6CC; FC00 1A 64A+654 62C;"
  , "FC01 1A 64A+654 62D; FC02 1A 64A+654 645; FC03 1A 64A+654 649; FC04 1A 64A+654 64A;"
  , "FC05 1A 628 62C; FC06 1A 628 62D; FC07 1A 628 62E; FC08 1A 628 645; FC09 1A 628 649;"
  , "FC0A 1A 628 64A; FC0B 1A 62A 62C; FC0C 1A 62A 62D; FC0D 1A 62A 62E; FC0E 1A 62A 645;"
  , "FC0F 1A 62A 649; FC10 1A 62A 64A; FC11 1A 62B 62C; FC12 1A 62B 645; FC13 1A 62B 649;"
  , "FC14 1A 62B 64A; FC15 1A 62C 62D; FC16 1A 62C 645; FC17 1A 62D 62C; FC18 1A 62D 645;"
  , "FC19 1A 62E 62C; FC1A 1A 62E 62D; FC1B 1A 62E 645; FC1C 1A 633 62C; FC1D 1A 633 62D;"
  , "FC1E 1A 633 62E; FC1F 1A 633 645; FC20 1A 635 62D; FC21 1A 635 645; FC22 1A 636 62C;"
  , "FC23 1A 636 62D; FC24 1A 636 62E; FC25 1A 636 645; FC26 1A 637 62D; FC27 1A 637 645;"
  , "FC28 1A 638 645; FC29 1A 639 62C; FC2A 1A 639 645; FC2B 1A 63A 62C; FC2C 1A 63A 645;"
  , "FC2D 1A 641 62C; FC2E 1A 641 62D; FC2F 1A 641 62E; FC30 1A 641 645; FC31 1A 641 649;"
  , "FC32 1A 641 64A; FC33 1A 642 62D; FC34 1A 642 645; FC35 1A 642 649; FC36 1A 642 64A;"
  , "FC37 1A 643 627; FC38 1A 643 62C; FC39 1A 643 62D; FC3A 1A 643 62E; FC3B 1A 643 644;"
  , "FC3C 1A 643 645; FC3D 1A 643 649; FC3E 1A 643 64A; FC3F 1A 644 62C; FC40 1A 644 62D;"
  , "FC41 1A 644 62E; FC42 1A 644 645; FC43 1A 644 649; FC44 1A 644 64A; FC45 1A 645 62C;"
  , "FC46 1A 645 62D; FC47 1A 645 62E; FC48 1A 645 645; FC49 1A 645 649; FC4A 1A 645 64A;"
  , "FC4B 1A 646 62C; FC4C 1A 646 62D; FC4D 1A 646 62E; FC4E 1A 646 645; FC4F 1A 646 649;"
  , "FC50 1A 646 64A; FC51 1A 647 62C; FC52 1A 647 645; FC53 1A 647 649; FC54 1A 647 64A;"
  , "FC55 1A 64A 62C; FC56 1A 64A 62D; FC57 1A 64A 62E; FC58 1A 64A 645; FC59 1A 64A 649;"
  , "FC5A 1A 64A 64A; FC5B 1A 630 670; FC5C 1A 631 670; FC5D 1A 649 670; FC5E 1A 64C 651;"
  , "FC5F 1A 64D 651; FC60 1A 64E 651; FC61 1A 64F 651; FC62 1A 650 651; FC63 1A 651 670;"
  , "FC64 19 64A+654 631; FC65 19 64A+654 632; FC66 19 64A+654 645; FC67 19 64A+654 646;"
  , "FC68 19 64A+654 649; FC69 19 64A+654 64A; FC6A 19 628 631; FC6B 19 628 632; FC6C 19"
  , "628 645; FC6D 19 628 646; FC6E 19 628 649; FC6F 19 628 64A; FC70 19 62A 631; FC71 19"
  , "62A 632; FC72 19 62A 645; FC73 19 62A 646; FC74 19 62A 649; FC75 19 62A 64A; FC76 19"
  , "62B 631; FC77 19 62B 632; FC78 19 62B 645; FC79 19 62B 646; FC7A 19 62B 649; FC7B 19"
  , "62B 64A; FC7C 19 641 649; FC7D 19 641 64A; FC7E 19 642 649; FC7F 19 642 64A; FC80 19"
  , "643 627; FC81 19 643 644; FC82 19 643 645; FC83 19 643 649; FC84 19 643 64A; FC85 19"
  , "644 645; FC86 19 644 649; FC87 19 644 64A; FC88 19 645 627; FC89 19 645 645; FC8A 19"
  , "646 631; FC8B 19 646 632; FC8C 19 646 645; FC8D 19 646 646; FC8E 19 646 649; FC8F 19"
  , "646 64A; FC90 19 649 670; FC91 19 64A 631; FC92 19 64A 632; FC93 19 64A 645; FC94 19"
  , "64A 646; FC95 19 64A 649; FC96 19 64A 64A; FC97 17 64A+654 62C; FC98 17 64A+654 62D;"
  , "FC99 17 64A+654 62E; FC9A 17 64A+654 645; FC9B 17 64A+654 647; FC9C 17 628 62C; FC9D"
  , "17 628 62D; FC9E 17 628 62E; FC9F 17 628 645; FCA0 17 628 647; FCA1 17 62A 62C; FCA2"
  , "17 62A 62D; FCA3 17 62A 62E; FCA4 17 62A 645; FCA5 17 62A 647; FCA6 17 62B 645; FCA7"
  , "17 62C 62D; FCA8 17 62C 645; FCA9 17 62D 62C; FCAA 17 62D 645; FCAB 17 62E 62C; FCAC"
  , "17 62E 645; FCAD 17 633 62C; FCAE 17 633 62D; FCAF 17 633 62E; FCB0 17 633 645; FCB1"
  , "17 635 62D; FCB2 17 635 62E; FCB3 17 635 645; FCB4 17 636 62C; FCB5 17 636 62D; FCB6"
  , "17 636 62E; FCB7 17 636 645; FCB8 17 637 62D; FCB9 17 638 645; FCBA 17 639 62C; FCBB"
  , "17 639 645; FCBC 17 63A 62C; FCBD 17 63A 645; FCBE 17 641 62C; FCBF 17 641 62D; FCC0"
  , "17 641 62E; FCC1 17 641 645; FCC2 17 642 62D; FCC3 17 642 645; FCC4 17 643 62C; FCC5"
  , "17 643 62D; FCC6 17 643 62E; FCC7 17 643 644; FCC8 17 643 645; FCC9 17 644 62C; FCCA"
  , "17 644 62D; FCCB 17 644 62E; FCCC 17 644 645; FCCD 17 644 647; FCCE 17 645 62C; FCCF"
  , "17 645 62D; FCD0 17 645 62E; FCD1 17 645 645; FCD2 17 646 62C; FCD3 17 646 62D; FCD4"
  , "17 646 62E; FCD5 17 646 645; FCD6 17 646 647; FCD7 17 647 62C; FCD8 17 647 645; FCD9"
  , "17 647 670; FCDA 17 64A 62C; FCDB 17 64A 62D; FCDC 17 64A 62E; FCDD 17 64A 645; FCDE"
  , "17 64A 647; FCDF 18 64A+654 645; FCE0 18 64A+654 647; FCE1 18 628 645; FCE2 18 628"
  , "647; FCE3 18 62A 645; FCE4 18 62A 647; FCE5 18 62B 645; FCE6 18 62B 647; FCE7 18 633"
  , "645; FCE8 18 633 647; FCE9 18 634 645; FCEA 18 634 647; FCEB 18 643 644; FCEC 18 643"
  , "645; FCED 18 644 645; FCEE 18 646 645; FCEF 18 646 647; FCF0 18 64A 645; FCF1 18 64A"
  , "647; FCF2 18 64E 651; FCF3 18 64F 651; FCF4 18 650 651; FCF5 1A 637 649; FCF6 1A 637"
  , "64A; FCF7 1A 639 649; FCF8 1A 639 64A; FCF9 1A 63A 649; FCFA 1A 63A 64A; FCFB 1A 633"
  , "649; FCFC 1A 633 64A; FCFD 1A 634 649; FCFE 1A 634 64A; FCFF 1A 62D 649; FD00 1A 62D"
  , "64A; FD01 1A 62C 649; FD02 1A 62C 64A; FD03 1A 62E 649; FD04 1A 62E 64A; FD05 1A 635"
  , "649; FD06 1A 635 64A; FD07 1A 636 649; FD08 1A 636 64A; FD09 1A 634 62C; FD0A 1A 634"
  , "62D; FD0B 1A 634 62E; FD0C 1A 634 645; FD0D 1A 634 631; FD0E 1A 633 631; FD0F 1A 635"
  , "631; FD10 1A 636 631; FD11 19 637 649; FD12 19 637 64A; FD13 19 639 649; FD14 19 639"
  , "64A; FD15 19 63A 649; FD16 19 63A 64A; FD17 19 633 649; FD18 19 633 64A; FD19 19 634"
  , "649; FD1A 19 634 64A; FD1B 19 62D 649; FD1C 19 62D 64A; FD1D 19 62C 649; FD1E 19 62C"
  , "64A; FD1F 19 62E 649; FD20 19 62E 64A; FD21 19 635 649; FD22 19 635 64A; FD23 19 636"
  , "649; FD24 19 636 64A; FD25 19 634 62C; FD26 19 634 62D; FD27 19 634 62E; FD28 19 634"
  , "645; FD29 19 634 631; FD2A 19 633 631; FD2B 19 635 631; FD2C 19 636 631; FD2D 17 634"
  , "62C; FD2E 17 634 62D; FD2F 17 634 62E; FD30 17 634 645; FD31 17 633 647; FD32 17 634"
  , "647; FD33 17 637 645; FD34 18 633 62C; FD35 18 633 62D; FD36 18 633 62E; FD37 18 634"
  , "62C; FD38 18 634 62D; FD39 18 634 62E; FD3A 18 637 645; FD3B 18 638 645; FD3C 19 627"
  , "64B; FD3D 1A 627 64B; FD50 17 62A 62C 645; FD51 19 62A 62D 62C; FD52 17 62A 62D 62C;"
  , "FD53 17 62A 62D 645; FD54 17 62A 62E 645; FD55 17 62A 645 62C; FD56 17 62A 645 62D;"
  , "FD57 17 62A 645 62E; FD58 19 62C 645 62D; FD59 17 62C 645 62D; FD5A 19 62D 645 64A;"
  , "FD5B 19 62D 645 649; FD5C 17 633 62D 62C; FD5D 17 633 62C 62D; FD5E 19 633 62C 649;"
  , "FD5F 19 633 645 62D; FD60 17 633 645 62D; FD61 17 633 645 62C; FD62 19 633 645 645;"
  , "FD63 17 633 645 645; FD64 19 635 62D 62D; FD65 17 635 62D 62D; FD66 19 635 645 645;"
  , "FD67 19 634 62D 645; FD68 17 634 62D 645; FD69 19 634 62C 64A; FD6A 19 634 645 62E;"
  , "FD6B 17 634 645 62E; FD6C 19 634 645 645; FD6D 17 634 645 645; FD6E 19 636 62D 649;"
  , "FD6F 19 636 62E 645; FD70 17 636 62E 645; FD71 19 637 645 62D; FD72 17 637 645 62D;"
  , "FD73 17 637 645 645; FD74 19 637 645 64A; FD75 19 639 62C 645; FD76 19 639 645 645;"
  , "FD77 17 639 645 645; FD78 19 639 645 649; FD79 19 63A 645 645; FD7A 19 63A 645 64A;"
  , "FD7B 19 63A 645 649; FD7C 19 641 62E 645; FD7D 17 641 62E 645; FD7E 19 642 645 62D;"
  , "FD7F 19 642 645 645; FD80 19 644 62D 645; FD81 19 644 62D 64A; FD82 19 644 62D 649;"
  , "FD83 17 644 62C 62C; FD84 19 644 62C 62C; FD85 19 644 62E 645; FD86 17 644 62E 645;"
  , "FD87 19 644 645 62D; FD88 17 644 645 62D; FD89 17 645 62D 62C; FD8A 17 645 62D 645;"
  , "FD8B 19 645 62D 64A; FD8C 17 645 62C 62D; FD8D 17 645 62C 645; FD8E 17 645 62E 62C;"
  , "FD8F 17 645 62E 645; FD92 17 645 62C 62E; FD93 17 647 645 62C; FD94 17 647 645 645;"
  , "FD95 17 646 62D 645; FD96 19 646 62D 649; FD97 19 646 62C 645; FD98 17 646 62C 645;"
  , "FD99 19 646 62C 649; FD9A 19 646 645 64A; FD9B 19 646 645 649; FD9C 19 64A 645 645;"
  , "FD9D 17 64A 645 645; FD9E 19 628 62E 64A; FD9F 19 62A 62C 64A; FDA0 19 62A 62C 649;"
  , "FDA1 19 62A 62E 64A; FDA2 19 62A 62E 649; FDA3 19 62A 645 64A; FDA4 19 62A 645 649;"
  , "FDA5 19 62C 645 64A; FDA6 19 62C 62D 649; FDA7 19 62C 645 649; FDA8 19 633 62E 649;"
  , "FDA9 19 635 62D 64A; FDAA 19 634 62D 64A; FDAB 19 636 62D 64A; FDAC 19 644 62C 64A;"
  , "FDAD 19 644 645 64A; FDAE 19 64A 62D 64A; FDAF 19 64A 62C 64A; FDB0 19 64A 645 64A;"
  , "FDB1 19 645 645 64A; FDB2 19 642 645 64A; FDB3 19 646 62D 64A; FDB4 17 642 645 62D;"
  , "FDB5 17 644 62D 645; FDB6 19 639 645 64A; FDB7 19 643 645 64A; FDB8 17 646 62C 62D;"
  , "FDB9 19 645 62E 64A; FDBA 17 644 62C 645; FDBB 19 643 645 645; FDBC 19 644 62C 645;"
  , "FDBD 19 646 62C 62D; FDBE 19 62C 62D 64A; FDBF 19 62D 62C 64A; FDC0 19 645 62C 64A;"
  , "FDC1 19 641 645 64A; FDC2 19 628 62D 64A; FDC3 17 643 645 645; FDC4 17 639 62C 645;"
  , "FDC5 17 635 645 645; FDC6 19 633 62E 64A; FDC7 19 646 62C 64A; FDF0 1A 635 644 6D2;"
  , "FDF1 1A 642 644 6D2; FDF2 1A 627 644 644 647; FDF3 1A 627 643 628 631; FDF4 1A 645 62D"
  , "645 62F; FDF5 1A 635 644 639 645; FDF6 1A 631 633 648 644; FDF7 1A 639 644 64A 647;"
  , "FDF8 1A 648 633 644 645; FDF9 1A 635 644 649; FDFA 1A 635 644 649 20 627 644 644 647"
  , "20 639 644 64A 647 20 648 633 644 645; FDFB 1A 62C 644 20 62C 644 627 644 647; FE10 16"
  , "2C; FE11-FE12 16 3001; FE13-FE14 16 3A; FE15 16 21; FE16 16 3F; FE17-FE18 16 3016;"
  , "FE19 16 2E 2E 2E; FE30 16 2E 2E; FE31 16 2014; FE32 16 2013; FE33 16 5F; FE34 16 5F;"
  , "FE35-FE36 16 28; FE37 16 7B; FE38 16 7D; FE39-FE3A 16 3014; FE3B-FE3C 16 3010;"
  , "FE3D-FE3E 16 300A; FE3F-FE40 16 3008; FE41-FE44 16 300C; FE47 16 5B; FE48 16 5D; FE49"
  , "4 203E; FE4A 4 203E; FE4B 4 203E; FE4C 4 203E; FE4D 4 5F; FE4E 4 5F; FE4F 4 5F; FE50 F"
  , "2C; FE51 F 3001; FE52 F 2E; FE54 F 3B; FE55 F 3A; FE56 F 3F; FE57 F 21; FE58 F 2014;"
  , "FE59-FE5A F 28; FE5B F 7B; FE5C F 7D; FE5D-FE5E F 3014; FE5F F 23; FE60 F 26;"
  , "FE61-FE62 F 2A; FE63 F 2D; FE64 F 3C; FE65 F 3E; FE66 F 3D; FE68 F 5C; FE69-FE6A F 24;"
  , "FE6B F 40; FE70 1A 64B; FE71 18 64B; FE72 1A 64C; FE74 1A 64D; FE76 1A 64E; FE77 18"
  , "64E; FE78 1A 64F; FE79 18 64F; FE7A 1A 650; FE7B 18 650; FE7C 1A 651; FE7D 18 651;"
  , "FE7E 1A 652; FE7F 18 652; FE80 1A 621; FE81 1A 627+653; FE82 19 627+653; FE83 1A"
  , "627+654; FE84 19 627+654; FE85 1A 648+654; FE86 19 648+654; FE87 1A 627+655; FE88 19"
  , "627+655; FE89 1A 64A+654; FE8A 19 64A+654; FE8B 17 64A+654; FE8C 18 64A+654; FE8D 1A"
  , "627; FE8E 19 627; FE8F 1A 628; FE90 19 628; FE91 17 628; FE92 18 628; FE93 1A 629;"
  , "FE94 19 629; FE95 1A 62A; FE96 19 62A; FE97 17 62A; FE98 18 62A; FE99 1A 62B; FE9A 19"
  , "62B; FE9B 17 62B; FE9C 18 62B; FE9D 1A 62C; FE9E 19 62C; FE9F 17 62C; FEA0 18 62C;"
  , "FEA1 1A 62D; FEA2 19 62D; FEA3 17 62D; FEA4 18 62D; FEA5 1A 62E; FEA6 19 62E; FEA7 17"
  , "62E; FEA8 18 62E; FEA9 1A 62F; FEAA 19 62F; FEAB 1A 630; FEAC 19 630; FEAD 1A 631;"
  , "FEAE 19 631; FEAF 1A 632; FEB0 19 632; FEB1 1A 633; FEB2 19 633; FEB3 17 633; FEB4 18"
  , "633; FEB5 1A 634; FEB6 19 634; FEB7 17 634; FEB8 18 634; FEB9 1A 635; FEBA 19 635;"
  , "FEBB 17 635; FEBC 18 635; FEBD 1A 636; FEBE 19 636; FEBF 17 636; FEC0 18 636; FEC1 1A"
  , "637; FEC2 19 637; FEC3 17 637; FEC4 18 637; FEC5 1A 638; FEC6 19 638; FEC7 17 638;"
  , "FEC8 18 638; FEC9 1A 639; FECA 19 639; FECB 17 639; FECC 18 639; FECD 1A 63A; FECE 19"
  , "63A; FECF 17 63A; FED0 18 63A; FED1 1A 641; FED2 19 641; FED3 17 641; FED4 18 641;"
  , "FED5 1A 642; FED6 19 642; FED7 17 642; FED8 18 642; FED9 1A 643; FEDA 19 643; FEDB 17"
  , "643; FEDC 18 643; FEDD 1A 644; FEDE 19 644; FEDF 17 644; FEE0 18 644; FEE1 1A 645;"
  , "FEE2 19 645; FEE3 17 645; FEE4 18 645; FEE5 1A 646; FEE6 19 646; FEE7 17 646; FEE8 18"
  , "646; FEE9 1A 647; FEEA 19 647; FEEB 17 647; FEEC 18 647; FEED 1A 648; FEEE 19 648;"
  , "FEEF 1A 649; FEF0 19 649; FEF1 1A 64A; FEF2 19 64A; FEF3 17 64A; FEF4 18 64A; FEF5 1A"
  , "644 627+653; FEF6 19 644 627+653; FEF7 1A 644 627+654; FEF8 19 644 627+654; FEF9 1A"
  , "644 627+655; FEFA 19 644 627+655; FEFB 1A 644 627; FEFC 19 644 627; FF01-FF20 3 21;"
  , "FF3B-FF5E 3 5B; FF5F-FF60 3 2985; FF61 12 3002; FF62-FF63 12 300C; FF64 12 3001; FF65"
  , "12 30FB; FF66 12 1B152; FF67 10 3041; FF68 10 3043; FF69 10 3045; FF6A 10 3047; FF6B"
  , "10 3049; FF6C 10 3083; FF6D 10 3085; FF6E 10 3087; FF6F 10 3063; FF70 12 30FC; FF71 12"
  , "3041; FF72 12 3043; FF73 12 3045; FF74 12 3047; FF75 12 3049; FF76 12 3095; FF77 12"
  , "304D; FF78 12 304F; FF79 12 3096; FF7A 12 3053; FF7B 12 3055; FF7C 12 3057; FF7D 12"
  , "3059; FF7E 12 305B; FF7F 12 305D; FF80 12 305F; FF81 12 3061; FF82 12 3063; FF83 12"
  , "3066; FF84 12 3068; FF85-FF8A 12 306A; FF8B 12 3072; FF8C 12 3075; FF8D 12 3078; FF8E"
  , "12 307B; FF8F-FF94 12 307E; FF95 12 3085; FF96 12 3087; FF97-FF9C 12 3089; FF9D 12"
  , "3093; FF9E-FF9F 12 3099; FFA0 12 1160; FFA1-FFA2 12 1100; FFA3 12 11AA; FFA4 12 1102;"
  , "FFA5-FFA6 12 11AC; FFA7-FFA9 12 1103; FFAA-FFAF 12 11B0; FFB0 12 111A; FFB1-FFB3 12"
  , "1106; FFB4 12 1121; FFB5-FFBE 12 1109; FFC2-FFC7 12 1161; FFCA-FFCF 12 1167; FFD2-FFD7"
  , "12 116D; FFDA-FFDC 12 1173; FFE0-FFE1 3 A2; FFE2 3 AC; FFE3 3 AF; FFE4 3 A6; FFE5 3"
  , "A5; FFE6 3 20A9; FFE8 12 2502; FFE9-FFEC 12 2190; FFED 12 25A0; FFEE 12 25CB" ]

/-- Variants among characters beyond the basic plane. -/
def supplementaryVariants : List String :=
  [ "10107-1010F 2 31; 10142 2 31; 10143 2 35; 10148 2 35; 1014F 2 35; 10158 2 31; 10159 2"
  , "31; 1015A-1015B 2 31; 1015C 2 32; 1015D 2 32; 1015E 2 32; 1015F 2 35; 10173 2 35;"
  , "1018A 2 30; 102E1-102E9 2 31; 10320 2 31; 10321 2 35; 10376 4 10350; 10377 4 10353;"
  , "10378 4 10357; 10379 4 1035D; 1037A 4 10361; 103D1-103D2 2 31; 104A0-104A9 2 30;"
  , "10858-1085A 2 31; 1086D 19 1086E; 10879-1087D 2 31; 10880 19 10881; 10882 19 10883;"
  , "10886 19 10887; 1088C 19 1088D; 1088E 19 1088F; 10890 19 10891; 10892 19 10893; 10894"
  , "19 10895; 1089C 19 1089D; 108A7-108AA 2 31; 108AB-108AC 2 34; 108FB 2 31; 108FC 2 35;"
  , "10916 2 31; 1091A-1091B 2 32; 10980 4 109A0 /118; 10981 4 109A1 /118; 10982 4 109A2"
  , "/118; 10983 4 109A3 /118; 10984 4 109A4 /118; 10985 4 109A5 /118; 10986 4 109A6 /118;"
  , "10987 4 109A6 /119; 10988 4 109A7 /118; 10989 4 109A8 /118; 1098A 4 109A9 /118; 1098B"
  , "4 109A9 /119; 1098C 4 109AA /118; 1098D 4 109AA /119; 1098E 4 109AB /118; 1098F 4"
  , "109AB /119; 10990 4 109AC /118; 10991 4 109AD /118; 10992 4 109AE /118; 10993 4 109AF"
  , "/119; 10994 4 109AF /11A; 10995 4 109B1 /118; 10996 4 109B2 /118; 10997 4 109B3 /118;"
  , "10998 4 109B4 /118; 10999 4 109B4 /119; 1099A 4 109B5 /118; 1099B 4 109B5 /119; 1099C"
  , "4 109B6 /118; 1099D 4 109B7 /118; 109B0 4 109AF /118; 109C0-109C8 2 31; 10A40-10A43 2"
  , "31; 10A7D 2 31; 10A9D 2 31; 10AC8 4 10AC7 /119; 10AEB 2 31; 10AEC 2 35; 10B2E 4 10B2D"
  , "/118; 10B58-10B5B 2 31; 10B78-10B7B 2 31; 10BA9-10BAC 2 31; 10C01 4 10C00 /118; 10C04"
  , "4 10C03 /118; 10C08 4 10C07 /118; 10C0A 4 10C09 /118; 10C0C 4 10C0B /118; 10C0E 4"
  , "10C0D /118; 10C10 4 10C0F /118; 10C12 4 10C11 /118; 10C15 4 10C14 /118; 10C17 4 10C16"
  , "/118; 10C19 4 10C18 /118; 10C1B 4 10C1A /118; 10C1D 4 10C1C /118; 10C1F 4 10C1E /118;"
  , "10C25 4 10C24 /118; 10C27 4 10C26 /118; 10C29 4 10C28 /118; 10C2B 4 10C2A /118; 10C2E"
  , "4 10C2D /118; 10C33 4 10C32 /118; 10C35 4 10C34 /118; 10C37 4 10C36 /118; 10C39 4"
  , "10C38 /118; 10C3B 4 10C3A /118; 10C40 4 10C3F /118; 10C42 4 10C41 /118; 10C44 4 10C43"
  , "/118; 10C46 4 10C45 /118; 10CC1 4 10CC0 /118; 10CCA 4 10CC9 /118; 10CCB 4 10CC9 /119;"
  , "10CD1 4 10CD0 /118; 10CDC 4 10CDB /118; 10CDE 4 10CDD /118; 10CDF 4 10CDD /119; 10CE3"
  , "4 10CE2 /118; 10CEB 4 10CEA /118; 10CED 4 10CEC /118; 10CFA 2 31; 10CFB 2 35;"
  , "10D30-10D39 2 30; 10E60-10E68 2 31; 10F01 19 10F00; 10F03 19 10F02; 10F06 19 10F05;"
  , "10F0F 19 10F0E; 10F10 4 10F0E /119; 10F13 4 10F12 /119; 10F16 19 10F15; 10F17 4 10F15"
  , "/119; 10F1B 19 10F1A; 10F1C 4 10F1A /119; 10F1D-10F21 2 31; 10F27 4 10F12 10F18; 10F45"
  , "4 10F41 /119; 10F51 2 31; 10FC5-10FC8 2 31; 10FF6 4 10FE6 10FE9; 11052-1105A 2 31;"
  , "11066-1106F 2 30; 110F0-110F9 2 30; 11136-1113F 2 30; 111D0-111D9 2 30; 111E1-111E9 2"
  , "31; 112F0-112F9 2 30; 11450-11459 2 30; 114D0-114D9 2 30; 115D8 4 11582 /118; 115D9 4"
  , "11582 /119; 115DA 4 11583 /118; 115DB 4 11584 /118; 115DC 4 115B2 /118; 115DD 4 115B3"
  , "/118; 11650-11659 2 30; 116C0-116C9 2 30; 11705 4 11704 /118; 11716 4 11715 /118;"
  , "1171A 4 11708 /118; 11730-11739 2 30; 118E0-118E9 2 30; 11950-11959 2 30; 11A3A 17"
  , "11A2B; 11A3B-11A3E 19 11A2A; 11A86-11A87 17 11A7C; 11A88 17 11A7F; 11A89 17 11A81;"
  , "11A8A-11A8B 19 11A5C; 11A8C 19 11A60; 11A8D 19 11A6B; 11A8E-11A8F 19 11A6F; 11A90 19"
  , "11A74; 11A91-11A92 19 11A7C; 11A93 19 11A7F; 11A94 19 11A81; 11A95 19 11A7A;"
  , "11C50-11C59 2 30; 11C5A-11C62 2 31; 11D46 17 11D26; 11D47 19 11D26; 11D50-11D59 2 30;"
  , "11DA0-11DA9 2 30; 12400-12407 2 32; 12408-1240E 2 33; 1240F-12414 2 34; 12415-1241D 2"
  , "31; 1241E-12422 2 31; 12423-12424 2 32; 12425-1242B 2 33; 1242C-1242E 2 31;"
  , "1242F-12431 2 33; 12434-12436 2 31; 12437-12439 2 33; 1243A 2 33; 1243B-1243C 2 33;"
  , "1243D 2 34; 1243E 2 34; 1243F 2 34; 12440-12441 2 36; 12442 2 37; 12443-12444 2 37;"
  , "12445-12446 2 38; 12447 2 39; 12448 2 39; 12449 2 39; 1244A-1244E 2 32; 1244F-12452 2"
  , "31; 12453-12454 2 34; 12455 2 35; 12456-12457 2 32; 12458-12459 2 31; 12469-1246E 2"
  , "34; 16A60-16A69 2 30; 16B50-16B59 2 30; 16E80-16E89 2 30; 16E94 4 31 /118; 16E95 4 32"
  , "/118; 16E96 2 33 /118; 16F06 4 16F04; 16F13 4 16F10; 16F25 4 16F23; 16F3F 4 16F3D;"
  , "1B000 11 1B000; 1B150-1B152 D 1B150; 1B164-1B166 F 1B150; 1B167 F 3093; 1D2E0-1D2E9 2"
  , "30; 1D360-1D368 2 31; 1D372-1D376 2 31; 1D377 2 31; 1D378 2 35; 1D400-1D419 B 61;"
  , "1D41A-1D433 5 61; 1D434-1D44D B 61; 1D44E-1D454 5 61; 1D456-1D467 5 69; 1D468-1D481 B"
  , "61; 1D482-1D49B 5 61; 1D49C B 61; 1D49E-1D49F B 63; 1D4A2 B 67; 1D4A5-1D4A6 B 6A;"
  , "1D4A9-1D4AC B 6E; 1D4AE-1D4B5 B 73; 1D4B6-1D4B9 5 61; 1D4BB 5 66; 1D4BD-1D4C3 5 68;"
  , "1D4C5-1D4CF 5 70; 1D4D0-1D4E9 B 61; 1D4EA-1D503 5 61; 1D504-1D505 B 61; 1D507-1D50A B"
  , "64; 1D50D-1D514 B 6A; 1D516-1D51C B 73; 1D51E-1D537 5 61; 1D538-1D539 B 61;"
  , "1D53B-1D53E B 64; 1D540-1D544 B 69; 1D546 B 6F; 1D54A-1D550 B 73; 1D552-1D56B 5 61;"
  , "1D56C-1D585 B 61; 1D586-1D59F 5 61; 1D5A0-1D5B9 B 61; 1D5BA-1D5D3 5 61; 1D5D4-1D5ED B"
  , "61; 1D5EE-1D607 5 61; 1D608-1D621 B 61; 1D622-1D63B 5 61; 1D63C-1D655 B 61;"
  , "1D656-1D66F 5 61; 1D670-1D689 B 61; 1D68A-1D6A3 5 61; 1D6A4 5 131; 1D6A5 5 237;"
  , "1D6A8-1D6B8 B 3B1; 1D6B9 B 3B8; 1D6BA-1D6C0 B 3C3; 1D6C1 5 2207; 1D6C2-1D6D2 5 3B1;"
  , "1D6D3 5 3C3; 1D6D4-1D6DA 5 3C3; 1D6DB 5 2202; 1D6DC 5 3B5; 1D6DD 5 3B8; 1D6DE 5 3BA;"
  , "1D6DF 5 3C6; 1D6E0 5 3C1; 1D6E1 5 3C0; 1D6E2-1D6F2 B 3B1; 1D6F3 B 3B8; 1D6F4-1D6FA B"
  , "3C3; 1D6FB 5 2207; 1D6FC-1D70C 5 3B1; 1D70D 5 3C3; 1D70E-1D714 5 3C3; 1D715 5 2202;"
  , "1D716 5 3B5; 1D717 5 3B8; 1D718 5 3BA; 1D719 5 3C6; 1D71A 5 3C1; 1D71B 5 3C0;"
  , "1D71C-1D72C B 3B1; 1D72D B 3B8; 1D72E-1D734 B 3C3; 1D735 5 2207; 1D736-1D746 5 3B1;"
  , "1D747 5 3C3; 1D748-1D74E 5 3C3; 1D74F 5 2202; 1D750 5 3B5; 1D751 5 3B8; 1D752 5 3BA;"
  , "1D753 5 3C6; 1D754 5 3C1; 1D755 5 3C0; 1D756-1D766 B 3B1; 1D767 B 3B8; 1D768-1D76E B"
  , "3C3; 1D76F 5 2207; 1D770-1D780 5 3B1; 1D781 5 3C3; 1D782-1D788 5 3C3; 1D789 5 2202;"
  , "1D78A 5 3B5; 1D78B 5 3B8; 1D78C 5 3BA; 1D78D 5 3C6; 1D78E 5 3C1; 1D78F 5 3C0;"
  , "1D790-1D7A0 B 3B1; 1D7A1 B 3B8; 1D7A2-1D7A8 B 3C3; 1D7A9 5 2207; 1D7AA-1D7BA 5 3B1;"
  , "1D7BB 5 3C3; 1D7BC-1D7C2 5 3C3; 1D7C3 5 2202; 1D7C4 5 3B5; 1D7C5 5 3B8; 1D7C6 5 3BA;"
  , "1D7C7 5 3C6; 1D7C8 5 3C1; 1D7C9 5 3C0; 1D7CA B 3DD; 1D7CB 5 3DD; 1D7CE-1D7D7 5 30;"
  , "1D7D8-1D7E1 5 30; 1D7E2-1D7EB 5 30; 1D7EC-1D7F5 5 30; 1D7F6-1D7FF 5 30; 1E000-1E006 4"
  , "2C30; 1E008-1E018 4 2C38; 1E01B-1E021 4 2C4B; 1E023-1E024 4 2C53; 1E026-1E02A 4 2C56;"
  , "1E140-1E149 2 30; 1E2F0-1E2F9 2 30; 1E8C7-1E8CF 2 31; 1E950-1E959 2 30; 1EC71-1EC79 2"
  , "31; 1ECA3-1ECAB 2 31; 1ECB1 4 31 /118; 1ECB2 4 32 /118; 1ED01-1ED09 2 31; 1ED2F 4 32"
  , "/118; 1ED30 4 33 /118; 1ED31 4 34 /118; 1ED32 4 35 /118; 1ED33 4 36 /118; 1ED34 4 37"
  , "/118; 1ED35 4 38 /118; 1ED36 4 39 /118; 1EE00-1EE01 5 627; 1EE02 5 62C; 1EE03 5 62F;"
  , "1EE05 5 648; 1EE06 5 632; 1EE07 5 62D; 1EE08 5 637; 1EE09 5 64A; 1EE0A-1EE0D 5 643;"
  , "1EE0E 5 633; 1EE0F 5 639; 1EE10 5 641; 1EE11 5 635; 1EE12 5 642; 1EE13 5 631; 1EE14 5"
  , "634; 1EE15-1EE16 5 62A; 1EE17 5 62E; 1EE18 5 630; 1EE19 5 636; 1EE1A 5 638; 1EE1B 5"
  , "63A; 1EE1C 5 66E; 1EE1D 5 6BA; 1EE1E 5 6A1; 1EE1F 5 66F; 1EE21 5 628; 1EE22 5 62C;"
  , "1EE24 5 647; 1EE27 5 62D; 1EE29 5 64A; 1EE2A-1EE2D 5 643; 1EE2E 5 633; 1EE2F 5 639;"
  , "1EE30 5 641; 1EE31 5 635; 1EE32 5 642; 1EE34 5 634; 1EE35-1EE36 5 62A; 1EE37 5 62E;"
  , "1EE39 5 636; 1EE3B 5 63A; 1EE42 5 62C; 1EE47 5 62D; 1EE49 5 64A; 1EE4B 5 644; 1EE4D 5"
  , "646; 1EE4E 5 633; 1EE4F 5 639; 1EE51 5 635; 1EE52 5 642; 1EE54 5 634; 1EE57 5 62E;"
  , "1EE59 5 636; 1EE5B 5 63A; 1EE5D 5 6BA; 1EE5F 5 66F; 1EE61 5 628; 1EE62 5 62C; 1EE64 5"
  , "647; 1EE67 5 62D; 1EE68 5 637; 1EE69 5 64A; 1EE6A 5 643; 1EE6C-1EE6D 5 645; 1EE6E 5"
  , "633; 1EE6F 5 639; 1EE70 5 641; 1EE71 5 635; 1EE72 5 642; 1EE74 5 634; 1EE75-1EE76 5"
  , "62A; 1EE77 5 62E; 1EE79 5 636; 1EE7A 5 638; 1EE7B 5 63A; 1EE7C 5 66E; 1EE7E 5 6A1;"
  , "1EE80-1EE81 5 627; 1EE82 5 62C; 1EE83 5 62F; 1EE84-1EE85 5 647; 1EE86 5 632; 1EE87 5"
  , "62D; 1EE88 5 637; 1EE89 5 64A; 1EE8B-1EE8D 5 644; 1EE8E 5 633; 1EE8F 5 639; 1EE90 5"
  , "641; 1EE91 5 635; 1EE92 5 642; 1EE93 5 631; 1EE94 5 634; 1EE95-1EE96 5 62A; 1EE97 5"
  , "62E; 1EE98 5 630; 1EE99 5 636; 1EE9A 5 638; 1EE9B 5 63A; 1EEA1 5 628; 1EEA2 5 62C;"
  , "1EEA3 5 62F; 1EEA5 5 648; 1EEA6 5 632; 1EEA7 5 62D; 1EEA8 5 637; 1EEA9 5 64A;"
  , "1EEAB-1EEAD 5 644; 1EEAE 5 633; 1EEAF 5 639; 1EEB0 5 641; 1EEB1 5 635; 1EEB2 5 642;"
  , "1EEB3 5 631; 1EEB4 5 634; 1EEB5-1EEB6 5 62A; 1EEB7 5 62E; 1EEB8 5 630; 1EEB9 5 636;"
  , "1EEBA 5 638; 1EEBB 5 63A; 1F100 4 30 2E; 1F101 4 30 2C; 1F102 4 31 2C; 1F103 4 32 2C;"
  , "1F104 4 33 2C; 1F105 4 34 2C; 1F106 4 35 2C; 1F107 4 36 2C; 1F108 4 37 2C; 1F109 4 38"
  , "2C; 1F10A 4 39 2C; 1F10B 6 30; 1F10C 6 30; 1F110 4 28 61:A 29; 1F111 4 28 62:A 29;"
  , "1F112 4 28 63:A 29; 1F113 4 28 64:A 29; 1F114 4 28 65:A 29; 1F115 4 28 66:A 29; 1F116"
  , "4 28 67:A 29; 1F117 4 28 68:A 29; 1F118 4 28 69:A 29; 1F119 4 28 6A:A 29; 1F11A 4 28"
  , "6B:A 29; 1F11B 4 28 6C:A 29; 1F11C 4 28 6D:A 29; 1F11D 4 28 6E:A 29; 1F11E 4 28 6F:A"
  , "29; 1F11F 4 28 70:A 29; 1F120 4 28 71:A 29; 1F121 4 28 72:A 29; 1F122 4 28 73:A 29;"
  , "1F123 4 28 74:A 29; 1F124 4 28 75:A 29; 1F125 4 28 76:A 29; 1F126 4 28 77:A 29; 1F127"
  , "4 28 78:A 29; 1F128 4 28 79:A 29; 1F129 4 28 7A:A 29; 1F12A 4 3014 73:A 3015; 1F12B C"
  , "63; 1F12C C 72; 1F12D C 63 64; 1F12E C 77 7A; 1F130-1F149 1D 61; 1F14A 1D 68 76; 1F14B"
  , "1D 6D 76; 1F14C 1D 73 64; 1F14D 1D 73 73; 1F14E 1D 70 70 76; 1F14F 1D 77 63;"
  , "1F150-1F169 C 61; 1F16A 14 6D 63; 1F16B 14 6D 64; 1F16C 14 6D 72; 1F170-1F189 1D 61;"
  , "1F18A 1D 70; 1F18B 1D 69 63; 1F18C 1D 70 61; 1F18D 1D 73 61; 1F18E 1D 61 62; 1F18F 1D"
  , "77 63; 1F190 1D 64 6A; 1F191 1D 63 6C; 1F192 1D 63 6F 6F 6C; 1F193 1D 66 72 65 65;"
  , "1F194 1D 69 64; 1F195 1D 6E 65 77; 1F196 1D 6E 67; 1F197 1D 6F 6B; 1F198 1D 73 6F 73;"
  , "1F199 1D 75 70 21:1C; 1F19A 1D 76 73; 1F19B 1C 33 64:1D; 1F19C 1C 32 6E 64 20 73:1D 63"
  , "72; 1F19D 1C 32 6B:1D; 1F19E 1C 34 6B:1D; 1F19F 1C 38 6B:1D; 1F1A0 1C 35 2E 31; 1F1A1"
  , "1C 37 2E 31; 1F1A2 1C 32 32 2E 32; 1F1A3 1C 36 30 70:1D; 1F1A4 1C 31 32 30 70:1D;"
  , "1F1A5 1C 64; 1F1A6 1D 68 63:1C; 1F1A7 1D 68 64:1C 72; 1F1A8 1C 68:1D 69 20 72:1D 65"
  , "73; 1F1A9 1C 6C:1D 6F 73 73 6C 65 73 73; 1F1AA 1D 73 68 76; 1F1AB 1D 75 68 64; 1F1AC"
  , "1D 76 6F 64; 1F200 1C 307B 3095; 1F201 1C 3053 3053; 1F202 1C 3055; 1F210 1C 624B;"
  , "1F211 1C 5B57; 1F212 1C 53CC; 1F213 1C 3066 3099; 1F214 1C 4E8C; 1F215 1C 591A; 1F216"
  , "1C 89E3; 1F217 1C 5929; 1F218 1C 4EA4; 1F219 1C 6620; 1F21A 1C 7121; 1F21B 1C 6599;"
  , "1F21C 1C 524D; 1F21D 1C 5F8C; 1F21E 1C 518D; 1F21F 1C 65B0; 1F220 1C 521D; 1F221 1C"
  , "7D42; 1F222 1C 751F; 1F223 1C 8CA9; 1F224 1C 58F0; 1F225 1C 5439; 1F226 1C 6F14; 1F227"
  , "1C 6295; 1F228 1C 6355; 1F229 1C 4E00; 1F22A 1C 4E09; 1F22B 1C 904A; 1F22C 1C 5DE6;"
  , "1F22D 1C 4E2D; 1F22E 1C 53F3; 1F22F 1C 6307; 1F230 1C 8D70; 1F231 1C 6253; 1F232 1C"
  , "7981; 1F233 1C 7A7A; 1F234 1C 5408; 1F235 1C 6E80; 1F236 1C 6709; 1F237 1C 6708; 1F238"
  , "1C 7533; 1F239 1C 5272; 1F23A 1C 55B6; 1F23B 1C 914D; 1F240 4 3014 672C 3015; 1F241 4"
  , "3014 4E09 3015; 1F242 4 3014 4E8C 3015; 1F243 4 3014 5B89 3015; 1F244 4 3014 70B9"
  , "3015; 1F245 4 3014 6253 3015; 1F246 4 3014 76D7 3015; 1F247 4 3014 52DD 3015; 1F248 4"
  , "3014 6557 3015; 1F250 6 5F97; 1F251 6 53EF; 1FBF0-1FBF9 5 30" ]

/-- The variants of all groups. -/
def allVariants : List (List String) :=
  [latinVariants, scriptVariants, symbolVariants, presentationVariants, supplementaryVariants]

/-- The table of variants. -/
def variantTable : CodeTable Variant :=
  .ofList ((allVariants.flatMap CodeTable.records).filterMap fun
    | r :: shade :: parts => some (.ofText r, ⟨hexNumber shade, parts.map .ofText⟩)
    | _ => none)

/-- Accents, each with the marks that have it. -/
def accentRecords : List String :=
  [ "21 332; 22 313 486 2CF1; 23 314 485 2CF0; 24 301 954; 25 300 953; 26 306; 27 302; 28"
  , "30C; 29 30A; 2A 342; 2B 308; 2C 30B; 2D 303; 2E 307; 2F 338; 30 327; 31 328; 32 304;"
  , "33 30D-30E 312 315 31A 33D-33F 346 34A-34C 350-352 357 35B 35D-35E 484 487 741 745 B55"
  , "17CB-17D1 17DD 1AB0-1AB4 1ABB-1ABC 1DC0-1DC1 1DC3-1DC9 1DCB-1DCE 1DD1 1DF5-1DF8 1DFB"
  , "1DFE 20F0 2CEF A67C-A67D 10AE5 10D24-10D27 10F48-10F4A 10F4C 1BC9D; 34 316-319 31C-320"
  , "329-32C 32F 333 33A-33C 347-349 34D-34E 353-356 359-35A 35C 35F 362 742 746 7FD"
  , "859-85B 1AB5-1ABA 1ABD 1DC2 1DCF-1DD0 1DF9 1DFC-1DFD 1DFF 20EC-20EF FE27 10A0D 10AE6"
  , "10F46-10F47 10F4B 10F4D-10F50; 35 336-337 20D8-20DA 20E5 20EA-20EB 1BC9E; 36 1ABE"
  , "20DD-20E0 20E2-20E4; 37 3099; 38 309A; 39 335; 3A 305; 3B 309; 3C 30F; 3D 310; 3E 311;"
  , "3F 31B; 40 321; 41 322; 42 323; 43 324; 44 325; 45 326; 46 32D; 47 32E; 48 330; 49"
  , "331; 4A 334; 4B 339; 4C 345; 4D 358; 4E 360 FE22 FE29; 4F 361 FE20; 50 483 FE2E; 51"
  , "A66F; 52 5B0; 53 5B1; 54 5B2; 55 5B3; 56 5B4; 57 5B5; 58 5B6; 59 5B7; 5A 5B8 5C7; 5B"
  , "5B9-5BA; 5C 5BB; 5D 5C2; 5E 5C1; 5F 5BC; 60 5BF; 61 FB1E; 62 81C-81D; 63 81E-820; 64"
  , "821-823; 65 824-825; 66 826-827; 67 828-82A; 68 82B; 69 82C; 6A 818; 6B 819; 6C 82D;"
  , "6D 64B; 6E 8F0; 6F 8E7; 70 64C; 71 8F1; 72 8E8; 73 64D; 74 8F2; 75 8E9; 76 64E; 77"
  , "8E4; 78 8F4; 79 8F5; 7A 64F; 7B 8E5; 7C 8FE; 7D 650; 7E 8E6; 7F 8F6; 80 651 AFB 11237;"
  , "81 652 AFA 1123E; 82 653 AFC 10EAC; 83 654 10EAB; 84 655; 85 65F; 86 656; 87 657; 88"
  , "658; 89 8FF; 8A 659; 8B 65A; 8C 65B; 8D 65C; 8E 65D; 8F 65E; 90 8E3; 91 8F7; 92 8F8;"
  , "93 8FD; 94 8FB; 95 8FC; 96 8F9; 97 8FA; 98 670; 99 711; 9A 730; 9B 731; 9C 732; 9D"
  , "733; 9E 734; 9F 735; A0 736; A1 737; A2 738; A3 739; A4 73A; A5 73B; A6 73C; A7 73D;"
  , "A8 73E; A9 73F; AA 7EB; AB 7EC; AC 7ED; AD 7EE; AE 7EF; AF 7F0; B0 7F1; B1 7F2; B2"
  , "7F3; B3 135F; B4 135E; B5 135D; B6 A6F0; B7 A6F1; B8 16AF0; B9 16AF1; BA 16AF2; BB"
  , "16AF3; BC 16AF4; BD 1E944-1E946; BE 1E94A; BF 1E947; C0 1E948; C1 1E949; C2 93C 9BC"
  , "A3C ABC AFD-AFF B3C CBC 1B34 1BE6 1C37 A9B3 110BA 11173 111CA 11236 112E9 1133B-1133C"
  , "11446 114C3 115C0 116B7 1183A 11943 11A33 11D42; C3 900-901 981 A01 A81 B01 C00-C01"
  , "C81 D01 D81 1B00-1B01 A8C5 A980 11000 11080 11100 11180 111CF 11301 11443 114BF 115BC"
  , "11640 1193C 11A35-11A37 11C3C 11CB6 11D43; C4 902 982 A02 A82 B02 B82 C02 C04 C82 D00"
  , "D02 D82 F7E 1036 17C6 1A74 1B02 1B80 1CED A80B A880 A981 10A0E 11001 11081 11101 11181"
  , "11234 112DF 11300 11302 11444 114C0 115BD 1163D 116AB 11837 1193B 119DE 11A38 11A96"
  , "11C3D 11CB5 11D40 11D95; C5 903 983 A03 A83 B03 C03 C83 D03 D83 F7F 1038 17C7 1B04"
  , "1B82 1CF2-1CF3 A881 A983 10A0F 11002 11082 11102 11182 11303 11445 114C1 115BE 1163E"
  , "116AC 11838 119DF 11A39 11A97 11C3E 11D41 11D96; C6 9FE 111C9 1145E; C7 A70; C8 A71;"
  , "C9 1B03; CA A982; CB 1B81; CC ABEC; CD 10A38; CE 10A39; CF 10A3A; D0 111CB; D1 111CC;"
  , "D2 11A98; D3 E4E; D4 E47; D5 E48; D6 E49; D7 E4A; D8 E4B; D9 E4C; DA E4D; DB EC8; DC"
  , "EC9; DD ECA; DE ECB; DF ECC; E0 ECD; E1 AABF; E2 AAC1; E3 F39; E4 A92B; E5 A92C; E6"
  , "A92D; E7 1037; E8 17C8; E9 17C9; EA 17CA; EB 1A75; EC 1A76; ED 1A77; EE 1A78; EF 1A79;"
  , "F0 1A7A; F1 1A7B; F2 1A7C; F3 1939; F4 193A; F5 193B; F6 16B30 1E131; F7 16B31 1E136;"
  , "F8 16B32 1E132; F9 16B33 1E133; FA 16B34 1E130; FB 16B35 1E134; FC 16B36 1E135; FD"
  , "1E2EC; FE 1E2ED; FF 1E2EE; 100 1E2EF; 101 302A; 102 302B; 103 302C; 104 302D; 105"
  , "302E; 106 302F; 107 16FF0; 108 16FF1; 109 20D0; 10A 20D1; 10B 20D2-20D3; 10C 20D4; 10D"
  , "20D5; 10E 20D6; 10F 20D7; 110 20DB; 111 20DC; 112 20E1; 113 20E6; 114 20E7; 115 20E8;"
  , "116 20E9; 117 101FD" ]

/-- The table of marks. -/
def accentTable : CodeTable Nat :=
  .ofList ((CodeTable.records accentRecords).flatMap fun
    | [] => []
    | a :: runs => runs.map fun r => (.ofText r, hexNumber a))

/-- Characters beyond ASCII that do not count. -/
def silentRuns : List String :=
  [ "7F-84 86-9F AD 34F 488-489 591-5AF 5BD 5C4-5C5 600-605 610-61A 61C 640 6D6-6DD 6DF-6E4"
  , "6E7-6E8 6EA-6ED 70F 740 743-744 747-74A 7FA 8D3-8E2 8EA-8EF 8F3 951-952 F18-F19 F35"
  , "F37 F3E-F3F F82-F83 F86-F87 FC6 17B4-17B5 17D3 180A-180E 1A7F 1B6B-1B73 1CD0-1CE8 1CF4"
  , "1CF7-1CF9 200B-200F 202A-202E 2060-2064 2066-206F 2D7F A670-A672 A8E0-A8F1 FE00-FE0F"
  , "FE21 FE23-FE26 FE28 FE2A-FE2D FE2F FE73 FEFF FFF9-FFFB 102E0 110BD 110CD 11366-1136C"
  , "11370-11374 13430-13438 16FE4 1BCA0-1BCA3 1D165-1D169 1D16D-1D182 1D185-1D18B"
  , "1D1AA-1D1AD 1D242-1D244 1DA00-1DA36 1DA3B-1DA6C 1DA75 1DA84 1DA9B-1DA9F 1DAA1-1DAAF"
  , "1E8D0-1E8D6 E0001 E0020-E007F E0100-E01EF" ]

/-- The table of characters that do not count. -/
def silentTable : CodeTable Unit := .ofRuns silentRuns

end LiveVisuals.Collation
