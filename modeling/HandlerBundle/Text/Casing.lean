import HandlerBundle.Text.CharMap

/-!
# Letter case

The lower-case and the upper-case form of a text, character by character, for all scripts. Some
characters have several characters as image. One rule looks at the neighbours: a capital sigma
that ends a word becomes a final sigma.

## Main definitions

* `lowerText`, `upperText`.
-/

namespace HandlerBundle

/-- The lower-case images. -/
def lowerMap : CharMap := CharMap.ofText
  "41 19 1 61 7f 16 1 e0 18 6 1 f8 28 17 2 101 32 2 2 133 7 7 2 13a 11 16 2 14b 2e 0 1 ff 1 2 2
    17a 8 0 1 253 1 1 2 183 4 0 1 254 1 0 1 188 2 1 1 256 2 0 1 18c 3 0 1 1dd 1 0 1 259 1 0 1
    25b 1 0 1 192 2 0 1 260 1 0 1 263 2 0 1 269 1 0 1 268 1 0 1 199 4 0 1 26f 1 0 1 272 2 0 1
    275 1 2 2 1a1 6 0 1 280 1 0 1 1a8 2 0 1 283 3 0 1 1ad 2 0 1 288 1 0 1 1b0 2 1 1 28a 2 1 2
    1b4 4 0 1 292 1 0 1 1b9 4 0 1 1bd 8 0 1 1c6 1 0 1 1c6 2 0 1 1c9 1 0 1 1c9 2 0 1 1cc 1 8 2
    1cc 13 8 2 1df 13 0 1 1f3 1 1 2 1f3 4 0 1 195 1 0 1 1bf 1 13 2 1f9 28 0 1 19e 2 8 2 223 18 0
    1 2c65 1 0 1 23c 2 0 1 19a 1 0 1 2c66 3 0 1 242 2 0 1 180 1 0 1 289 1 0 1 28c 1 4 2 247 12a
    1 2 371 6 0 1 377 9 0 1 3f3 7 0 1 3ac 2 2 1 3ad 4 0 1 3cc 2 1 1 3cd 3 10 1 3b1 13 7 1 3c4 2b
    0 1 3d7 9 b 2 3d9 1c 0 1 3b8 3 0 1 3f8 2 0 1 3f2 1 0 1 3fb 3 2 1 37b 3 f 1 450 10 1f 1 430
    50 10 2 461 2a 1a 2 48b 36 0 1 4cf 1 6 2 4c2 f 2f 2 4d1 61 25 1 561 b6f 25 1 2d00 27 0 1
    2d27 6 0 1 2d2d 2d3 4f 1 ab70 50 5 1 13f8 8a0 2a 1 10d0 2d 2 1 10fd 143 4a 2 1e01 9e 0 1 df
    2 2f 2 1ea1 68 7 1 1f00 10 5 1 1f10 10 7 1 1f20 10 7 1 1f30 10 5 1 1f40 11 3 2 1f51 f 7 1
    1f60 20 7 1 1f80 10 7 1 1f90 10 7 1 1fa0 10 1 1 1fb0 2 1 1 1f70 2 0 1 1fb3 c 3 1 1f72 4 0 1
    1fc3 c 1 1 1fd0 2 1 1 1f76 e 1 1 1fe0 2 1 1 1f7a 2 0 1 1fe5 c 1 1 1f78 2 1 1 1f7c 2 0 1 1ff3
    12a 0 1 3c9 4 0 1 6b 1 0 1 e5 7 0 1 214e 2e f 1 2170 23 0 1 2184 333 19 1 24d0 74a 2f 1 2c30
    60 0 1 2c61 2 0 1 26b 1 0 1 1d7d 1 0 1 27d 3 2 2 2c68 6 0 1 251 1 0 1 271 1 0 1 250 1 0 1
    252 2 0 1 2c73 3 0 1 2c76 9 1 1 23f 2 31 2 2c81 6b 1 2 2cec 7 0 1 2cf3 794e 16 2 a641 40 d 2
    a681 a2 6 2 a723 10 1e 2 a733 47 1 2 a77a 4 0 1 1d79 1 4 2 a77f d 0 1 a78c 2 0 1 265 3 1 2
    a791 6 9 2 a797 14 0 1 266 1 0 1 25c 1 0 1 261 1 0 1 26c 1 0 1 26a 2 0 1 29e 1 0 1 287 1 0 1
    29d 1 0 1 ab53 1 7 2 a7b5 10 0 1 a794 1 0 1 282 1 0 1 1d8e 1 1 2 a7c8 9 0 1 a7d1 6 1 2 a7d7
    1f 0 1 a7f6 572c 19 1 ff41 4df 27 1 10428 b0 23 1 104d8 c0 a 1 10597 c e 1 105a3 10 6 1
    105b3 8 1 1 105bb 6ec 32 1 10cc0 c20 1f 1 118c0 55a0 1f 1 16e60 7ac0 21 1 1e922"
  "130 2 69 307"

/-- The upper-case images. -/
def upperMap : CharMap := CharMap.ofText
  "61 19 1 41 54 0 1 39c 2b 16 1 c0 18 6 1 d8 7 0 1 178 2 17 2 100 30 0 1 49 2 2 2 132 7 7 2
    139 11 16 2 14a 2f 2 2 179 5 0 1 53 1 0 1 243 3 1 2 182 5 0 1 187 4 0 1 18b 6 0 1 191 3 0 1
    1f6 4 0 1 198 1 0 1 23d 4 0 1 220 3 2 2 1a0 7 0 1 1a7 5 0 1 1ac 3 0 1 1af 4 1 2 1b3 5 0 1
    1b8 4 0 1 1bc 2 0 1 1f7 6 0 1 1c4 1 0 1 1c4 2 0 1 1c7 1 0 1 1c7 2 0 1 1ca 1 0 1 1ca 2 7 2
    1cd f 0 1 18e 2 8 2 1de 13 0 1 1f1 1 0 1 1f1 2 0 1 1f4 4 13 2 1f8 2a 8 2 222 19 0 1 23b 3 1
    1 2c7e 3 0 1 241 5 4 2 246 9 0 1 2c6f 1 0 1 2c6d 1 0 1 2c70 1 0 1 181 1 0 1 186 2 1 1 189 3
    0 1 18f 2 0 1 190 1 0 1 a7ab 4 0 1 193 1 0 1 a7ac 2 0 1 194 2 0 1 a78d 1 0 1 a7aa 2 0 1 197
    1 0 1 196 1 0 1 a7ae 1 0 1 2c62 1 0 1 a7ad 3 0 1 19c 2 0 1 2c6e 1 0 1 19d 3 0 1 19f 8 0 1
    2c64 3 0 1 1a6 2 0 1 a7c5 1 0 1 1a9 4 0 1 a7b1 1 0 1 1ae 1 0 1 244 1 1 1 1b1 2 0 1 245 6 0 1
    1b7 b 0 1 a7b2 1 0 1 a7b0 a7 0 1 399 2c 1 2 370 6 0 1 376 4 2 1 3fd 31 0 1 386 1 2 1 388 4
    10 1 391 11 0 1 3a3 1 8 1 3a3 9 0 1 38c 1 1 1 38e 3 0 1 392 1 0 1 398 4 0 1 3a6 1 0 1 3a0 1
    0 1 3cf 2 b 2 3d8 17 0 1 39a 1 0 1 3a1 1 0 1 3f9 1 0 1 37f 2 0 1 395 3 0 1 3f7 3 0 1 3fa 35
    1f 1 410 20 f 1 400 11 10 2 460 2a 1a 2 48a 37 6 2 4c1 d 0 1 4c0 2 2f 2 4d0 90 25 1 531 b6f
    2a 1 1c90 2d 2 1 1cbd 2fb 5 1 13f0 888 0 1 412 1 0 1 414 1 0 1 41e 1 1 1 421 2 0 1 422 1 0 1
    42a 1 0 1 462 1 0 1 a64a f1 0 1 a77d 4 0 1 2c63 11 0 1 a7c6 73 4a 2 1e00 9a 0 1 1e60 6 2f 2
    1ea0 5f 7 1 1f08 10 5 1 1f18 10 7 1 1f28 10 7 1 1f38 10 5 1 1f48 11 3 2 1f59 f 7 1 1f68 10 1
    1 1fba 2 3 1 1fc8 4 1 1 1fda 2 1 1 1ff8 2 1 1 1fea 2 1 1 1ffa 34 1 1 1fb8 e 0 1 399 12 1 1
    1fd8 10 1 1 1fe8 5 0 1 1fec 169 0 1 2132 22 f 1 2160 14 0 1 2183 34c 19 1 24b6 760 2f 1 2c00
    31 0 1 2c60 4 0 1 23a 1 0 1 23e 2 2 2 2c67 b 0 1 2c72 3 0 1 2c75 b 31 2 2c80 6b 1 2 2ceb 7 0
    1 2cf2 d 25 1 10a0 27 0 1 10c7 6 0 1 10cd 7914 16 2 a640 40 d 2 a680 a2 6 2 a722 10 1e 2
    a732 47 1 2 a779 5 4 2 a77e d 0 1 a78b 5 1 2 a790 3 0 1 a7c4 3 9 2 a796 1e 7 2 a7b4 13 1 2
    a7c7 9 0 1 a7d0 6 1 2 a7d6 1f 0 1 a7f5 35d 0 1 a7b3 1d 4f 1 13a0 53d1 19 1 ff21 4e7 27 1
    10400 b0 23 1 104b0 bf a 1 10570 c e 1 1057c 10 6 1 1058c 8 1 1 10594 705 32 1 10c80 c00 1f
    1 118a0 55a0 1f 1 16e40 7ac2 21 1 1e900"
  "df 2 53 53 149 2 2bc 4e 1f0 2 4a 30c 390 3 399 308 301 3b0 3 3a5 308 301 587 2 535 552 1e96
    2 48 331 1e97 2 54 308 1e98 2 57 30a 1e99 2 59 30a 1e9a 2 41 2be 1f50 2 3a5 313 1f52 3 3a5
    313 300 1f54 3 3a5 313 301 1f56 3 3a5 313 342 1f80 2 1f08 399 1f81 2 1f09 399 1f82 2 1f0a
    399 1f83 2 1f0b 399 1f84 2 1f0c 399 1f85 2 1f0d 399 1f86 2 1f0e 399 1f87 2 1f0f 399 1f88 2
    1f08 399 1f89 2 1f09 399 1f8a 2 1f0a 399 1f8b 2 1f0b 399 1f8c 2 1f0c 399 1f8d 2 1f0d 399
    1f8e 2 1f0e 399 1f8f 2 1f0f 399 1f90 2 1f28 399 1f91 2 1f29 399 1f92 2 1f2a 399 1f93 2 1f2b
    399 1f94 2 1f2c 399 1f95 2 1f2d 399 1f96 2 1f2e 399 1f97 2 1f2f 399 1f98 2 1f28 399 1f99 2
    1f29 399 1f9a 2 1f2a 399 1f9b 2 1f2b 399 1f9c 2 1f2c 399 1f9d 2 1f2d 399 1f9e 2 1f2e 399
    1f9f 2 1f2f 399 1fa0 2 1f68 399 1fa1 2 1f69 399 1fa2 2 1f6a 399 1fa3 2 1f6b 399 1fa4 2 1f6c
    399 1fa5 2 1f6d 399 1fa6 2 1f6e 399 1fa7 2 1f6f 399 1fa8 2 1f68 399 1fa9 2 1f69 399 1faa 2
    1f6a 399 1fab 2 1f6b 399 1fac 2 1f6c 399 1fad 2 1f6d 399 1fae 2 1f6e 399 1faf 2 1f6f 399
    1fb2 2 1fba 399 1fb3 2 391 399 1fb4 2 386 399 1fb6 2 391 342 1fb7 3 391 342 399 1fbc 2 391
    399 1fc2 2 1fca 399 1fc3 2 397 399 1fc4 2 389 399 1fc6 2 397 342 1fc7 3 397 342 399 1fcc 2
    397 399 1fd2 3 399 308 300 1fd3 3 399 308 301 1fd6 2 399 342 1fd7 3 399 308 342 1fe2 3 3a5
    308 300 1fe3 3 3a5 308 301 1fe4 2 3a1 313 1fe6 2 3a5 342 1fe7 3 3a5 308 342 1ff2 2 1ffa 399
    1ff3 2 3a9 399 1ff4 2 38f 399 1ff6 2 3a9 342 1ff7 3 3a9 342 399 1ffc 2 3a9 399 fb00 2 46 46
    fb01 2 46 49 fb02 2 46 4c fb03 3 46 46 49 fb04 3 46 46 4c fb05 2 53 54 fb06 2 53 54 fb13 2
    544 546 fb14 2 544 535 fb15 2 544 53b fb16 2 54e 546 fb17 2 544 53d"

/-- The characters that have case and are not skipped in the search for the end of a word. -/
def casedSet : CharSet := CharSet.ofGaps
  "41 19 7 19 30 0 b 0 5 0 6 16 2 1e 2 c2 2 3 5 cf 2 1a c1 3 3 1 4 2 2 0 7 0 2 2 2 0 2 13 2 52
    2 8a 9 a5 2 25 a 28 b18 25 2 0 6 0 3 2a 3 2 2a1 55 3 5 883 8 8 2a 3 2 41 2b 40 c 2 21 66 115
    3 5 3 25 3 5 3 7 2 0 2 0 2 0 2 1e 3 34 2 6 2 0 4 2 2 6 4 3 3 5 5 c 6 2 2 6 106 0 5 0 3 9 2 0
    4 4 7 0 2 0 2 0 2 3 2 5 5 0 3 3 6 4 5 0 12 1f 4 1 332 33 717 7b 3 66 7 3 4 1 d 25 2 0 6 0
    7913 2d 13 1b 87 4d 2 16 4 3 2 3a 6 1 2 0 2 4 1c 1 4 0 336 2a 6 8 8 4f 4f41 6 d 4 40a 19 7
    19 4a6 4f 61 23 5 23 75 a 2 e 2 6 2 1 2 a 2 e 2 6 2 1 6c4 32 e 32 bae 3f 5561 3f 6581 54 2
    46 2 1 3 0 3 1 3 3 2 b 2 0 2 6 2 40 2 3 3 7 2 6 2 1b 2 3 2 4 2 0 4 6 2 153 3 18 2 18 2 1e 2
    18 2 1e 2 18 2 1e 2 18 2 1e 2 18 2 7 735 9 2 13 9e2 43 7ed 19 7 19 7 19"

/-- The characters that are skipped in the search for the end of a word. -/
def caseIgnorableSet : CharSet := CharSet.ofGaps
  "27 0 7 0 c 0 24 0 2 0 48 0 5 0 2 0 5 0 3 1 1f8 bf 5 1 5 0 a 1 2 0 fc 6 d0 0 6 0 32 2c 2 0 2
    1 2 1 2 0 2d 0 c 5 b a 2 0 24 0 b 14 11 0 66 7 2 9 2 3 22 0 2 0 1f 1a 5c a 3b a 5 0 3 0 19
    17 2c 2 2d 0 8 1 7 7 2a 39 38 0 2 0 5 7 5 0 4 6 b 1 e 0 10 0 3b 0 5 3 9 0 15 1 1b 0 3 1 3a 0
    5 1 5 1 3 2 4 0 1f 1 4 0 c 1 3a 0 5 4 2 1 5 0 15 1 17 5 2 0 3b 0 3 0 2 3 9 0 8 1 c 1 1f 0 3e
    0 d 0 33 0 4 0 38 0 2 2 6 2 2 3 8 1 c 1 1e 0 3b 0 3 0 7 0 6 1 15 1 1d 1 3a 1 5 3 9 0 15 1 1e
    0 49 0 8 2 2 0 5b 0 3 6 c 8 63 0 3 8 a 0 2 5 4b 1 1c 0 2 0 2 0 38 d 2 4 2 1 6 a 2 23 a 0 67
    3 2 5 2 1 3 1 1a 1 5 2 11 3 e 0 3 1 7 0 10 0 5f 0 261 2 3b3 2 1e 1 1f 1 1f 1 41 1 2 6 9 0 3
    a 4 0 6 0 2e 4 34 0 42 1 23 0 77 2 5 1 a 0 7 2 dc 1 3 0 3b 0 2 6 2 0 2 0 3 7 7 9 3 0 28 0 9
    1e 32 3 31 0 2 4 2 0 6 0 29 8 d 1 21 3 3 1 2 2 39 0 2 1 4 0 2 2 3b 7 3 1 41 5 53 2 2 c 2 6 5
    0 7 0 4 1 33 3e e 0 23 64 1be 0 2 2 c 2 e 2 e 2 e 1 d 4 9 1 b 0 3 0 3 4 32 4 2 9 2 0 e 0 11
    c 34 20 b8c 1 72 2 7e 0 10 0 61 1f 30 0 1d6 0 25 3 4 4 6 0 5e 5 5e 2 6f17 0 4e3 5 10f 0 63 3
    2 9 2 0 1d 3 51 1 f 21 4f 0 18 2 68 2 4 1 9 0 4 0 5 0 1a 1 6 0 98 1 1b 11 e 0 27 7 1a a 2f 2
    31 0 3 3 3 1 12 0 16 1 43 5 3 1 3 1 d 0 9 0 24 0 c 0 34 0 2 2 3 1 6 1 2 0 1c 0 f 1 6 1 2 0
    65 4 a 2 7a 0 3 0 5 0 4f31 0 94 10 23e f 4 0 d f 23 0 3 0 aa 0 8 0 7 0 c 0 24 0 2 0 30 0 2e
    1 44 0 16 2 202 0 e3 0 96 4 406 5 2 29 2 8 247 2 2 1 6 3 29 2 5 0 a6 1 23e 3 184 1 9a a 32 3
    7c 0 37 e 2a 0 3 1 b 2 32 3 3 1 3 0 5 0 b 0 33 2 25 4 2 7 3f 0 d 1 35 8 b 3 3 0 60 2 3 0 2 1
    7 0 a1 0 4 7 16 1 3a 1 4 0 26 6 4 4 c4 7 3 2 2 0 18 0 55 5 2 0 5 1 2 1 ef 3 7 1 2 1 1c 1 56
    7 3 0 2 1 6b 0 2 0 3 5 2 0 66 2 3 3 2 4 104 8 2 1 101 1 2 0 5 0 91 3 3 1 5 0 21 9 29 5 3 3 9
    0 a 5 3 2 2f c 2 1 197 6 2 5 2 0 53 15 3 6 2 1 2 1 7b 5 4 0 2 1 2 6 2 0 49 1 4 0 2 0 15c 1
    153c 8 36b8 4 3c 6 a 3 40c 0 40 10 41 1 2 1 400c 3 2 6 2 1 c9f 1 2 3 125d 2d 3 16 221 2 a f
    3 6 1f 3 95 2 7bc 36 5 31 9 0 f 0 17 4 2 e 551 6 2 10 3 6 2 1 2 4 106 d 171 0 3e 3 5e1 6 6e
    7 ab0 4 c0c02 0 1f 5f 81 ef"

/-- Whether the first character that is not skipped has case. -/
def meetsCased (cs : List Char) : Bool :=
  match cs.dropWhile caseIgnorableSet.contains with
  | [] => false
  | c :: _ => casedSet.contains c

/-- Lower-cases characters; `before` holds those already passed, backwards. -/
def lowerChars (before : List Char) : List Char → List Char
  | [] => []
  | c :: rest =>
    let image :=
      if c == 'Σ' then
        [if meetsCased before && !meetsCased rest then 'ς' else 'σ']
      else (lowerMap.image? c).getD [c]
    image ++ lowerChars (c :: before) rest

/-- The lower-case form of a text. -/
def lowerText (s : String) : String :=
  String.ofList (lowerChars [] s.toList)

/-- The upper-case form of a text. -/
def upperText (s : String) : String :=
  String.ofList (s.toList.flatMap fun c => (upperMap.image? c).getD [c])

end HandlerBundle
