import HandlerBundle.Text.CharMap

/-!
# The composed form of an identifier

Two spellings of one identifier are the same name. Every identifier is brought to its composed
compatibility form: each character is taken apart, marks are put in order by their class, and what
can be put together again is put together. The table of parts covers the characters that may stand
in an identifier.

## Main definitions

* `composedText` — the composed form.
-/

namespace HandlerBundle

/-- The full decompositions, the syllables of Hangul apart. -/
def partsMap : CharMap := CharMap.ofText
  "aa 0 1 61 b 0 1 3bc 5 0 1 6f c5 0 1 73 131 0 1 68 1 0 1 266 1 0 1 6a 1 0 1 72 1 0 1 279 1 0
    1 27b 1 0 1 281 1 0 1 77 1 0 1 79 28 0 1 263 1 0 1 6c 1 0 1 73 1 0 1 78 1 0 1 295 5c 1 1 300
    3 0 1 313 31 0 1 2b9 13 0 1 b7 49 0 1 3b2 1 0 1 3b8 1 0 1 3a5 3 0 1 3c6 1 0 1 3c0 1a 0 1 3ba
    1 1 1 3c1 3 0 1 398 1 0 1 3b5 4 0 1 3a3 d03 0 1 10dc c30 0 1 41 1 0 1 c6 1 1 2 42 3 0 1 45 1
    0 1 18e 1 7 1 47 9 0 1 4f 1 0 1 222 1 0 1 50 1 0 1 52 1 1 1 54 2 0 1 57 1 0 1 61 1 1 1 250 2
    0 1 1d02 1 0 1 62 1 1 1 64 2 0 1 259 1 1 1 25b 2 0 1 67 2 0 1 6b 1 0 1 6d 1 0 1 14b 1 0 1 6f
    1 0 1 254 1 1 1 1d16 2 0 1 70 1 1 1 74 2 0 1 1d1d 1 0 1 26f 1 0 1 76 1 0 1 1d25 1 2 1 3b2 3
    1 1 3c6 2 0 1 69 1 0 1 72 1 1 1 75 2 1 1 3b2 2 0 1 3c1 1 1 1 3c6 f 0 1 43d 23 0 1 252 1 0 1
    63 1 0 1 255 1 0 1 f0 1 0 1 25c 1 0 1 66 1 0 1 25f 1 0 1 261 1 0 1 265 1 2 1 268 3 0 1 1d7b
    1 0 1 29d 1 0 1 26d 1 0 1 1d85 1 0 1 29f 1 0 1 271 1 0 1 270 1 3 1 272 4 0 1 278 1 1 1 282 2
    0 1 1ab 1 1 1 289 2 0 1 1d1c 1 1 1 28b 2 0 1 7a 1 2 1 290 3 0 1 3b8 1ff 0 1 3b9 b3 0 1 69 e
    0 1 6e 11 0 1 61 1 0 1 65 1 0 1 6f 1 0 1 78 1 0 1 259 1 0 1 68 1 3 1 6b 4 0 1 70 1 1 1 73 67
    0 1 43 5 0 1 190 3 0 1 67 1 0 1 48 1 0 1 48 1 0 1 48 1 0 1 68 1 0 1 127 1 0 1 49 1 0 1 49 1
    0 1 4c 1 0 1 6c 2 0 1 4e 4 2 1 50 3 0 1 52 1 0 1 52 7 0 1 5a 2 0 1 3a9 2 0 1 5a 2 0 1 4b 2 1
    1 42 3 0 1 65 1 1 1 45 3 0 1 4d 1 0 1 6f 1 3 1 5d0 4 0 1 69 3 0 1 3c0 1 0 1 3b3 1 0 1 393 1
    0 1 3a0 6 0 1 44 1 1 1 64 2 1 1 69 18 0 1 49 4 0 1 56 5 0 1 58 3 0 1 4c 1 1 1 43 2 0 1 4d 1
    0 1 69 4 0 1 76 5 0 1 78 3 0 1 6c 1 1 1 63 2 0 1 6d afd 0 1 6a 1 0 1 56 f2 0 1 2d61 2c9 0 1
    5341 1 1 1 5344 f8 1 1 1100 2 0 1 11aa 1 0 1 1102 1 1 1 11ac 2 2 1 1103 3 5 1 11b0 6 0 1
    111a 1 2 1 1106 3 0 1 1121 1 9 1 1109 a 14 1 1161 15 0 1 1160 1 1 1 1114 2 1 1 11c7 2 0 1
    11cc 1 0 1 11ce 1 0 1 11d3 1 0 1 11d7 1 0 1 11d9 1 0 1 111c 1 0 1 11dd 1 0 1 11df 1 1 1 111d
    2 0 1 1120 1 1 1 1122 2 0 1 1127 1 0 1 1129 1 4 1 112b 5 0 1 1132 1 0 1 1136 1 0 1 1140 1 0
    1 1147 1 0 1 114c 1 1 1 11f1 2 2 1 1157 3 1 1 1184 2 0 1 1188 1 1 1 1191 2 0 1 1194 1 0 1
    119e 1 0 1 11a1 750e 0 1 44a 1 0 1 44c d3 0 1 a76f 82 0 1 43 1 0 1 46 1 0 1 51 4 0 1 126 1 0
    1 153 363 0 1 a727 1 0 1 ab37 1 0 1 26b 1 0 1 ab52 a 0 1 28d 4d97 0 1 8c48 1 0 1 66f4 1 0 1
    8eca 1 0 1 8cc8 1 0 1 6ed1 1 0 1 4e32 1 0 1 53e5 1 0 1 9f9c 1 0 1 9f9c 1 0 1 5951 1 0 1 91d1
    1 0 1 5587 1 0 1 5948 1 0 1 61f6 1 0 1 7669 1 0 1 7f85 1 0 1 863f 1 0 1 87ba 1 0 1 88f8 1 0
    1 908f 1 0 1 6a02 1 0 1 6d1b 1 0 1 70d9 1 0 1 73de 1 0 1 843d 1 0 1 916a 1 0 1 99f1 1 0 1
    4e82 1 0 1 5375 1 0 1 6b04 1 0 1 721b 1 0 1 862d 1 0 1 9e1e 1 0 1 5d50 1 0 1 6feb 1 0 1 85cd
    1 0 1 8964 1 0 1 62c9 1 0 1 81d8 1 0 1 881f 1 0 1 5eca 1 0 1 6717 1 0 1 6d6a 1 0 1 72fc 1 0
    1 90ce 1 0 1 4f86 1 0 1 51b7 1 0 1 52de 1 0 1 64c4 1 0 1 6ad3 1 0 1 7210 1 0 1 76e7 1 0 1
    8001 1 0 1 8606 1 0 1 865c 1 0 1 8def 1 0 1 9732 1 0 1 9b6f 1 0 1 9dfa 1 0 1 788c 1 0 1 797f
    1 0 1 7da0 1 0 1 83c9 1 0 1 9304 1 0 1 9e7f 1 0 1 8ad6 1 0 1 58df 1 0 1 5f04 1 0 1 7c60 1 0
    1 807e 1 0 1 7262 1 0 1 78ca 1 0 1 8cc2 1 0 1 96f7 1 0 1 58d8 1 0 1 5c62 1 0 1 6a13 1 0 1
    6dda 1 0 1 6f0f 1 0 1 7d2f 1 0 1 7e37 1 0 1 964b 1 0 1 52d2 1 0 1 808b 1 0 1 51dc 1 0 1 51cc
    1 0 1 7a1c 1 0 1 7dbe 1 0 1 83f1 1 0 1 9675 1 0 1 8b80 1 0 1 62cf 1 0 1 6a02 1 0 1 8afe 1 0
    1 4e39 1 0 1 5be7 1 0 1 6012 1 0 1 7387 1 0 1 7570 1 0 1 5317 1 0 1 78fb 1 0 1 4fbf 1 0 1
    5fa9 1 0 1 4e0d 1 0 1 6ccc 1 0 1 6578 1 0 1 7d22 1 0 1 53c3 1 0 1 585e 1 0 1 7701 1 0 1 8449
    1 0 1 8aaa 1 0 1 6bba 1 0 1 8fb0 1 0 1 6c88 1 0 1 62fe 1 0 1 82e5 1 0 1 63a0 1 0 1 7565 1 0
    1 4eae 1 0 1 5169 1 0 1 51c9 1 0 1 6881 1 0 1 7ce7 1 0 1 826f 1 0 1 8ad2 1 0 1 91cf 1 0 1
    52f5 1 0 1 5442 1 0 1 5973 1 0 1 5eec 1 0 1 65c5 1 0 1 6ffe 1 0 1 792a 1 0 1 95ad 1 0 1 9a6a
    1 0 1 9e97 1 0 1 9ece 1 0 1 529b 1 0 1 66c6 1 0 1 6b77 1 0 1 8f62 1 0 1 5e74 1 0 1 6190 1 0
    1 6200 1 0 1 649a 1 0 1 6f23 1 0 1 7149 1 0 1 7489 1 0 1 79ca 1 0 1 7df4 1 0 1 806f 1 0 1
    8f26 1 0 1 84ee 1 0 1 9023 1 0 1 934a 1 0 1 5217 1 0 1 52a3 1 0 1 54bd 1 0 1 70c8 1 0 1 88c2
    1 0 1 8aaa 1 0 1 5ec9 1 0 1 5ff5 1 0 1 637b 1 0 1 6bae 1 0 1 7c3e 1 0 1 7375 1 0 1 4ee4 1 0
    1 56f9 1 0 1 5be7 1 0 1 5dba 1 0 1 601c 1 0 1 73b2 1 0 1 7469 1 0 1 7f9a 1 0 1 8046 1 0 1
    9234 1 0 1 96f6 1 0 1 9748 1 0 1 9818 1 0 1 4f8b 1 0 1 79ae 1 0 1 91b4 1 0 1 96b8 1 0 1 60e1
    1 0 1 4e86 1 0 1 50da 1 0 1 5bee 1 0 1 5c3f 1 0 1 6599 1 0 1 6a02 1 0 1 71ce 1 0 1 7642 1 0
    1 84fc 1 0 1 907c 1 0 1 9f8d 1 0 1 6688 1 0 1 962e 1 0 1 5289 1 0 1 677b 1 0 1 67f3 1 0 1
    6d41 1 0 1 6e9c 1 0 1 7409 1 0 1 7559 1 0 1 786b 1 0 1 7d10 1 0 1 985e 1 0 1 516d 1 0 1 622e
    1 0 1 9678 1 0 1 502b 1 0 1 5d19 1 0 1 6dea 1 0 1 8f2a 1 0 1 5f8b 1 0 1 6144 1 0 1 6817 1 0
    1 7387 1 0 1 9686 1 0 1 5229 1 0 1 540f 1 0 1 5c65 1 0 1 6613 1 0 1 674e 1 0 1 68a8 1 0 1
    6ce5 1 0 1 7406 1 0 1 75e2 1 0 1 7f79 1 0 1 88cf 1 0 1 88e1 1 0 1 91cc 1 0 1 96e2 1 0 1 533f
    1 0 1 6eba 1 0 1 541d 1 0 1 71d0 1 0 1 7498 1 0 1 85fa 1 0 1 96a3 1 0 1 9c57 1 0 1 9e9f 1 0
    1 6797 1 0 1 6dcb 1 0 1 81e8 1 0 1 7acb 1 0 1 7b20 1 0 1 7c92 1 0 1 72c0 1 0 1 7099 1 0 1
    8b58 1 0 1 4ec0 1 0 1 8336 1 0 1 523a 1 0 1 5207 1 0 1 5ea6 1 0 1 62d3 1 0 1 7cd6 1 0 1 5b85
    1 0 1 6d1e 1 0 1 66b4 1 0 1 8f3b 1 0 1 884c 1 0 1 964d 1 0 1 898b 1 0 1 5ed3 1 0 1 5140 1 0
    1 55c0 3 0 1 585a 2 0 1 6674 3 0 1 51de 1 0 1 732a 1 0 1 76ca 1 0 1 793c 1 0 1 795e 1 0 1
    7965 1 0 1 798f 1 0 1 9756 1 0 1 7cbe 1 0 1 7fbd 2 0 1 8612 2 0 1 8af8 3 0 1 9038 1 0 1 90fd
    4 0 1 98ef 1 0 1 98fc 1 0 1 9928 1 0 1 9db4 1 0 1 90de 1 0 1 96b7 1 0 1 4fae 1 0 1 50e7 1 0
    1 514d 1 0 1 52c9 1 0 1 52e4 1 0 1 5351 1 0 1 559d 1 0 1 5606 1 0 1 5668 1 0 1 5840 1 0 1
    58a8 1 0 1 5c64 1 0 1 5c6e 1 0 1 6094 1 0 1 6168 1 0 1 618e 1 0 1 61f2 1 0 1 654f 1 0 1 65e2
    1 0 1 6691 1 0 1 6885 1 0 1 6d77 1 0 1 6e1a 1 0 1 6f22 1 0 1 716e 1 0 1 722b 1 0 1 7422 1 0
    1 7891 1 0 1 793e 1 0 1 7949 1 0 1 7948 1 0 1 7950 1 0 1 7956 1 0 1 795d 1 1 1 798d 2 0 1
    7a40 1 0 1 7a81 1 0 1 7bc0 1 0 1 7df4 1 0 1 7e09 1 0 1 7e41 1 0 1 7f72 1 0 1 8005 1 0 1 81ed
    1 0 1 8279 1 0 1 8279 1 0 1 8457 1 0 1 8910 1 0 1 8996 1 0 1 8b01 1 0 1 8b39 1 0 1 8cd3 1 0
    1 8d08 1 0 1 8fb6 1 0 1 9038 1 0 1 96e3 1 0 1 97ff 1 0 1 983b 1 0 1 6075 1 0 1 242ee 1 0 1
    8218 3 0 1 4e26 1 0 1 51b5 1 0 1 5168 1 0 1 4f80 1 0 1 5145 1 0 1 5180 1 0 1 52c7 1 0 1 52fa
    1 0 1 559d 1 0 1 5555 1 0 1 5599 1 0 1 55e2 1 0 1 585a 1 0 1 58b3 1 0 1 5944 1 0 1 5954 1 0
    1 5a62 1 0 1 5b28 1 0 1 5ed2 1 0 1 5ed9 1 0 1 5f69 1 0 1 5fad 1 0 1 60d8 1 0 1 614e 1 0 1
    6108 1 0 1 618e 1 0 1 6160 1 0 1 61f2 1 0 1 6234 1 0 1 63c4 1 0 1 641c 1 0 1 6452 1 0 1 6556
    1 0 1 6674 1 0 1 6717 1 0 1 671b 1 0 1 6756 1 0 1 6b79 1 0 1 6bba 1 0 1 6d41 1 0 1 6edb 1 0
    1 6ecb 1 0 1 6f22 1 0 1 701e 1 0 1 716e 1 0 1 77a7 1 0 1 7235 1 0 1 72af 1 0 1 732a 1 0 1
    7471 1 0 1 7506 1 0 1 753b 1 0 1 761d 1 0 1 761f 1 0 1 76ca 1 0 1 76db 1 0 1 76f4 1 0 1 774a
    1 0 1 7740 1 0 1 78cc 1 0 1 7ab1 1 0 1 7bc0 1 0 1 7c7b 1 0 1 7d5b 1 0 1 7df4 1 0 1 7f3e 1 0
    1 8005 1 0 1 8352 1 0 1 83ef 1 0 1 8779 1 0 1 8941 1 0 1 8986 1 0 1 8996 1 0 1 8abf 1 0 1
    8af8 1 0 1 8acb 1 0 1 8b01 1 0 1 8afe 1 0 1 8aed 1 0 1 8b39 1 0 1 8b8a 1 0 1 8d08 1 0 1 8f38
    1 0 1 9072 1 0 1 9199 1 0 1 9276 1 0 1 967c 1 0 1 96e3 1 0 1 9756 1 0 1 97db 1 0 1 97ff 1 0
    1 980b 1 0 1 983b 1 0 1 9b12 1 0 1 9f9c 1 0 1 2284a 1 0 1 22844 1 0 1 233d5 1 0 1 3b9d 1 0 1
    4018 1 0 1 4039 1 0 1 25249 1 0 1 25cd0 1 0 1 27ed3 1 0 1 9f43 1 0 1 9f8e 47 0 1 5e2 1 0 1
    5d0 1 1 1 5d3 2 2 1 5db 3 0 1 5e8 1 0 1 5ea 28 0 1 671 1 0 1 671 1 0 1 67b 1 0 1 67b 1 0 1
    67b 1 0 1 67b 1 0 1 67e 1 0 1 67e 1 0 1 67e 1 0 1 67e 1 0 1 680 1 0 1 680 1 0 1 680 1 0 1
    680 1 0 1 67a 1 0 1 67a 1 0 1 67a 1 0 1 67a 1 0 1 67f 1 0 1 67f 1 0 1 67f 1 0 1 67f 1 0 1
    679 1 0 1 679 1 0 1 679 1 0 1 679 1 0 1 6a4 1 0 1 6a4 1 0 1 6a4 1 0 1 6a4 1 0 1 6a6 1 0 1
    6a6 1 0 1 6a6 1 0 1 6a6 1 0 1 684 1 0 1 684 1 0 1 684 1 0 1 684 1 0 1 683 1 0 1 683 1 0 1
    683 1 0 1 683 1 0 1 686 1 0 1 686 1 0 1 686 1 1 1 686 2 0 1 687 1 0 1 687 1 0 1 687 1 0 1
    68d 1 0 1 68d 1 0 1 68c 1 0 1 68c 1 0 1 68e 1 0 1 68e 1 0 1 688 1 0 1 688 1 0 1 698 1 0 1
    698 1 0 1 691 1 0 1 691 1 0 1 6a9 1 0 1 6a9 1 0 1 6a9 1 0 1 6a9 1 0 1 6af 1 0 1 6af 1 0 1
    6af 1 0 1 6af 1 0 1 6b3 1 0 1 6b3 1 0 1 6b3 1 0 1 6b3 1 0 1 6b1 1 0 1 6b1 1 0 1 6b1 1 0 1
    6b1 1 0 1 6ba 1 1 1 6ba 2 0 1 6bb 1 0 1 6bb 1 0 1 6bb 3 0 1 6c1 1 0 1 6c1 1 0 1 6c1 1 0 1
    6c1 1 0 1 6be 1 0 1 6be 1 0 1 6be 1 0 1 6be 1 0 1 6d2 1 0 1 6d2 24 0 1 6ad 1 0 1 6ad 1 0 1
    6ad 1 0 1 6ad 1 0 1 6c7 1 0 1 6c7 1 0 1 6c6 1 0 1 6c6 1 0 1 6c8 1 0 1 6c8 2 0 1 6cb 1 0 1
    6cb 1 0 1 6c5 1 0 1 6c5 1 0 1 6c9 1 0 1 6c9 1 0 1 6d0 1 0 1 6d0 1 0 1 6d0 1 0 1 6d0 1 0 1
    649 1 0 1 649 13 0 1 6cc 1 0 1 6cc 1 0 1 6cc 1 0 1 6cc 234 0 1 5f 1 0 1 5f 19 0 1 5f 1 0 1
    5f 1 0 1 5f 31 0 1 621 d 0 1 627 1 1 1 627 2 0 1 628 1 0 1 628 1 1 1 628 2 1 1 629 2 0 1 62a
    1 0 1 62a 1 1 1 62a 2 0 1 62b 1 0 1 62b 1 1 1 62b 2 0 1 62c 1 0 1 62c 1 1 1 62c 2 0 1 62d 1
    0 1 62d 1 1 1 62d 2 0 1 62e 1 0 1 62e 1 1 1 62e 2 1 1 62f 2 1 1 630 2 1 1 631 2 1 1 632 2 0
    1 633 1 0 1 633 1 1 1 633 2 0 1 634 1 0 1 634 1 1 1 634 2 0 1 635 1 0 1 635 1 1 1 635 2 0 1
    636 1 0 1 636 1 1 1 636 2 0 1 637 1 0 1 637 1 1 1 637 2 0 1 638 1 0 1 638 1 1 1 638 2 0 1
    639 1 0 1 639 1 1 1 639 2 0 1 63a 1 0 1 63a 1 0 1 63a 1 0 1 641 1 0 1 641 1 0 1 641 1 1 1
    641 2 0 1 642 1 0 1 642 1 1 1 642 2 0 1 643 1 0 1 643 1 1 1 643 2 0 1 644 1 0 1 644 1 1 1
    644 2 0 1 645 1 0 1 645 1 1 1 645 2 0 1 646 1 0 1 646 1 1 1 646 2 0 1 647 1 0 1 647 1 1 1
    647 2 1 1 648 2 1 1 649 2 0 1 64a 1 0 1 64a 1 0 1 64a 1c 9 1 30 11 19 1 41 1e 1 2 5f 3 18 1
    62 24 0 1 30f2 1 0 1 30a1 1 0 1 30a3 1 0 1 30a5 1 0 1 30a7 1 0 1 30a9 1 0 1 30e3 1 0 1 30e5
    1 0 1 30e7 1 0 1 30c3 1 0 1 30fc 1 0 1 30a2 1 0 1 30a4 1 0 1 30a6 1 0 1 30a8 1 1 1 30aa 2 0
    1 30ad 1 0 1 30af 1 0 1 30b1 1 0 1 30b3 1 0 1 30b5 1 0 1 30b7 1 0 1 30b9 1 0 1 30bb 1 0 1
    30bd 1 0 1 30bf 1 0 1 30c1 1 0 1 30c4 1 0 1 30c6 1 0 1 30c8 1 5 1 30ca 6 0 1 30d2 1 0 1 30d5
    1 0 1 30d8 1 0 1 30db 1 4 1 30de 5 0 1 30e4 1 0 1 30e6 1 5 1 30e8 6 0 1 30ef 1 0 1 30f3 1 1
    1 3099 2 0 1 1160 1 1 1 1100 2 0 1 11aa 1 0 1 1102 1 1 1 11ac 2 2 1 1103 3 5 1 11b0 6 0 1
    111a 1 2 1 1106 3 0 1 1121 1 9 1 1109 d 5 1 1161 8 5 1 1167 8 5 1 116d 8 2 1 1173 7a7 1 1
    2d0 2 0 1 e6 1 0 1 299 1 0 1 253 2 0 1 2a3 1 0 1 ab66 1 0 1 2a5 1 0 1 2a4 1 1 1 256 2 0 1
    1d91 1 0 1 258 1 0 1 25e 1 0 1 2a9 1 0 1 264 1 0 1 262 1 0 1 260 1 0 1 29b 1 0 1 127 1 0 1
    29c 1 0 1 267 1 0 1 284 1 1 1 2aa 2 0 1 26c 1 0 1 1df04 1 0 1 a78e 1 0 1 26e 1 0 1 1df05 1 0
    1 28e 1 0 1 1df06 1 0 1 f8 1 1 1 276 2 0 1 71 1 0 1 27a 1 0 1 1df08 1 1 1 27d 2 0 1 280 1 0
    1 2a8 1 0 1 2a6 1 0 1 ab67 1 0 1 2a7 1 0 1 288 1 0 1 2c71 2 0 1 28f 1 1 1 2a1 2 0 1 298 1 2
    1 1c0 3 0 1 1df0a 1 0 1 1df1e cc46 19 1 41 1a 19 1 61 1a 19 1 41 1a 6 1 61 8 11 1 69 12 19 1
    41 1a 19 1 61 1a 1 2 41 3 0 1 44 3 0 1 47 3 1 1 4a 4 3 1 4e 5 7 1 53 8 3 1 61 5 1 2 66 3 5 1
    69 7 a 1 70 b 19 1 41 1a 19 1 61 1a 1 1 41 3 3 1 44 6 7 1 4a 9 6 1 53 8 19 1 61 1a 1 1 41 3
    3 1 44 5 4 1 49 6 0 1 4f 4 6 1 53 8 19 1 61 1a 19 1 41 1a 19 1 61 1a 19 1 41 1a 19 1 61 1a
    19 1 41 1a 19 1 61 1a 19 1 41 1a 19 1 61 1a 19 1 41 1a 19 1 61 1a 19 1 41 1a 19 1 61 1a 0 1
    131 1 0 1 237 3 10 1 391 11 0 1 398 1 6 1 3a3 8 18 1 3b1 1a 0 1 3b5 1 0 1 3b8 1 0 1 3ba 1 0
    1 3c6 1 0 1 3c1 1 0 1 3c0 1 10 1 391 11 0 1 398 1 6 1 3a3 8 18 1 3b1 1a 0 1 3b5 1 0 1 3b8 1
    0 1 3ba 1 0 1 3c6 1 0 1 3c1 1 0 1 3c0 1 10 1 391 11 0 1 398 1 6 1 3a3 8 18 1 3b1 1a 0 1 3b5
    1 0 1 3b8 1 0 1 3ba 1 0 1 3c6 1 0 1 3c1 1 0 1 3c0 1 10 1 391 11 0 1 398 1 6 1 3a3 8 18 1 3b1
    1a 0 1 3b5 1 0 1 3b8 1 0 1 3ba 1 0 1 3c6 1 0 1 3c1 1 0 1 3c0 1 10 1 391 11 0 1 398 1 6 1 3a3
    8 18 1 3b1 1a 0 1 3b5 1 0 1 3b8 1 0 1 3ba 1 0 1 3c6 1 0 1 3c1 1 0 1 3c0 1 1 1 3dc 4 9 1 30 a
    9 1 30 a 9 1 30 a 9 1 30 a 9 1 30 160a 1 1 627 2 0 1 62c 1 0 1 62f 2 0 1 648 1 0 1 632 1 0 1
    62d 1 0 1 637 1 0 1 64a 1 3 1 643 4 0 1 633 1 0 1 639 1 0 1 641 1 0 1 635 1 0 1 642 1 0 1
    631 1 0 1 634 1 1 1 62a 2 0 1 62e 1 0 1 630 1 0 1 636 1 0 1 638 1 0 1 63a 1 0 1 66e 1 0 1
    6ba 1 0 1 6a1 1 0 1 66f 2 0 1 628 1 0 1 62c 2 0 1 647 3 0 1 62d 2 0 1 64a 1 3 1 643 4 0 1
    633 1 0 1 639 1 0 1 641 1 0 1 635 1 0 1 642 2 0 1 634 1 1 1 62a 2 0 1 62e 2 0 1 636 2 0 1
    63a 7 0 1 62c 5 0 1 62d 2 0 1 64a 2 1 2 644 3 0 1 633 1 0 1 639 2 0 1 635 1 0 1 642 2 0 1
    634 3 0 1 62e 2 0 1 636 2 0 1 63a 2 0 1 6ba 2 0 1 66f 2 0 1 628 1 0 1 62c 2 0 1 647 3 0 1
    62d 1 0 1 637 1 0 1 64a 1 1 2 643 3 0 1 646 1 0 1 633 1 0 1 639 1 0 1 641 1 0 1 635 1 0 1
    642 2 0 1 634 1 1 1 62a 2 0 1 62e 2 0 1 636 1 0 1 638 1 0 1 63a 1 0 1 66e 2 0 1 6a1 2 1 1
    627 2 0 1 62c 1 0 1 62f 1 1 1 647 2 0 1 632 1 0 1 62d 1 0 1 637 1 0 1 64a 2 2 1 644 3 0 1
    633 1 0 1 639 1 0 1 641 1 0 1 635 1 0 1 642 1 0 1 631 1 0 1 634 1 1 1 62a 2 0 1 62e 1 0 1
    630 1 0 1 636 1 0 1 638 1 0 1 63a 6 0 1 628 1 0 1 62c 1 0 1 62f 2 0 1 648 1 0 1 632 1 0 1
    62d 1 0 1 637 1 0 1 64a 2 2 1 644 3 0 1 633 1 0 1 639 1 0 1 641 1 0 1 635 1 0 1 642 1 0 1
    631 1 0 1 634 1 1 1 62a 2 0 1 62e 1 0 1 630 1 0 1 636 1 0 1 638 1 0 1 63a d35 9 1 30 fc10 0
    1 4e3d 1 0 1 4e38 1 0 1 4e41 1 0 1 20122 1 0 1 4f60 1 0 1 4fae 1 0 1 4fbb 1 0 1 5002 1 0 1
    507a 1 0 1 5099 1 0 1 50e7 1 0 1 50cf 1 0 1 349e 1 0 1 2063a 1 0 1 514d 1 0 1 5154 1 0 1
    5164 1 0 1 5177 1 0 1 2051c 1 0 1 34b9 1 0 1 5167 1 0 1 518d 1 0 1 2054b 1 0 1 5197 1 0 1
    51a4 1 0 1 4ecc 1 0 1 51ac 1 0 1 51b5 1 0 1 291df 1 0 1 51f5 1 0 1 5203 1 0 1 34df 1 0 1
    523b 1 0 1 5246 1 0 1 5272 1 0 1 5277 1 0 1 3515 1 0 1 52c7 1 0 1 52c9 1 0 1 52e4 1 0 1 52fa
    1 1 1 5305 2 0 1 5317 1 0 1 5349 1 0 1 5351 1 0 1 535a 1 0 1 5373 1 0 1 537d 1 0 1 537f 1 0
    1 537f 1 0 1 537f 1 0 1 20a2c 1 0 1 7070 1 0 1 53ca 1 0 1 53df 1 0 1 20b63 1 0 1 53eb 1 0 1
    53f1 1 0 1 5406 1 0 1 549e 1 0 1 5438 1 0 1 5448 1 0 1 5468 1 0 1 54a2 1 0 1 54f6 1 0 1 5510
    1 0 1 5553 1 0 1 5563 1 0 1 5584 1 0 1 5584 1 0 1 5599 1 0 1 55ab 1 0 1 55b3 1 0 1 55c2 1 0
    1 5716 1 0 1 5606 1 0 1 5717 1 0 1 5651 1 0 1 5674 1 0 1 5207 1 0 1 58ee 1 0 1 57ce 1 0 1
    57f4 1 0 1 580d 1 0 1 578b 1 0 1 5832 1 0 1 5831 1 0 1 58ac 1 0 1 214e4 1 0 1 58f2 1 0 1
    58f7 1 0 1 5906 1 0 1 591a 1 0 1 5922 1 0 1 5962 1 0 1 216a8 1 0 1 216ea 1 0 1 59ec 1 0 1
    5a1b 1 0 1 5a27 1 0 1 59d8 1 0 1 5a66 1 0 1 36ee 1 0 1 36fc 1 0 1 5b08 1 0 1 5b3e 1 0 1 5b3e
    1 0 1 219c8 1 0 1 5bc3 1 0 1 5bd8 1 0 1 5be7 1 0 1 5bf3 1 0 1 21b18 1 0 1 5bff 1 0 1 5c06 1
    0 1 5f53 1 0 1 5c22 1 0 1 3781 1 0 1 5c60 1 0 1 5c6e 1 0 1 5cc0 1 0 1 5c8d 1 0 1 21de4 1 0 1
    5d43 1 0 1 21de6 1 0 1 5d6e 1 0 1 5d6b 1 0 1 5d7c 1 1 1 5de1 2 0 1 382f 1 0 1 5dfd 1 0 1
    5e28 1 0 1 5e3d 1 0 1 5e69 1 0 1 3862 1 0 1 22183 1 0 1 387c 1 0 1 5eb0 1 0 1 5eb3 1 0 1
    5eb6 1 0 1 5eca 1 0 1 2a392 1 0 1 5efe 1 0 1 22331 1 0 1 22331 1 0 1 8201 1 0 1 5f22 1 0 1
    5f22 1 0 1 38c7 1 0 1 232b8 1 0 1 261da 1 0 1 5f62 1 0 1 5f6b 1 0 1 38e3 1 0 1 5f9a 1 0 1
    5fcd 1 0 1 5fd7 1 0 1 5ff9 1 0 1 6081 1 0 1 393a 1 0 1 391c 1 0 1 6094 1 0 1 226d4 1 0 1
    60c7 1 0 1 6148 1 0 1 614c 1 0 1 614e 1 0 1 614c 1 0 1 617a 1 0 1 618e 1 0 1 61b2 1 0 1 61a4
    1 0 1 61af 1 0 1 61de 1 0 1 61f2 1 0 1 61f6 1 0 1 6210 1 0 1 621b 1 0 1 625d 1 0 1 62b1 1 0
    1 62d4 1 0 1 6350 1 0 1 22b0c 1 0 1 633d 1 0 1 62fc 1 0 1 6368 1 0 1 6383 1 0 1 63e4 1 0 1
    22bf1 1 0 1 6422 1 0 1 63c5 1 0 1 63a9 1 0 1 3a2e 1 0 1 6469 1 0 1 647e 1 0 1 649d 1 0 1
    6477 1 0 1 3a6c 1 0 1 654f 1 0 1 656c 1 0 1 2300a 1 0 1 65e3 1 0 1 66f8 1 0 1 6649 1 0 1
    3b19 1 0 1 6691 1 0 1 3b08 1 0 1 3ae4 1 0 1 5192 1 0 1 5195 1 0 1 6700 1 0 1 669c 1 0 1 80ad
    1 0 1 43d9 1 0 1 6717 1 0 1 671b 1 0 1 6721 1 0 1 675e 1 0 1 6753 1 0 1 233c3 1 0 1 3b49 1 0
    1 67fa 1 0 1 6785 1 0 1 6852 1 0 1 6885 1 0 1 2346d 1 0 1 688e 1 0 1 681f 1 0 1 6914 1 0 1
    3b9d 1 0 1 6942 1 0 1 69a3 1 0 1 69ea 1 0 1 6aa8 1 0 1 236a3 1 0 1 6adb 1 0 1 3c18 1 0 1
    6b21 1 0 1 238a7 1 0 1 6b54 1 0 1 3c4e 1 0 1 6b72 1 0 1 6b9f 1 1 1 6bba 2 0 1 23a8d 1 0 1
    21d0b 1 0 1 23afa 1 0 1 6c4e 1 0 1 23cbc 1 0 1 6cbf 1 0 1 6ccd 1 0 1 6c67 1 0 1 6d16 1 0 1
    6d3e 1 0 1 6d77 1 0 1 6d41 1 0 1 6d69 1 0 1 6d78 1 0 1 6d85 1 0 1 23d1e 1 0 1 6d34 1 0 1
    6e2f 1 0 1 6e6e 1 0 1 3d33 1 0 1 6ecb 1 0 1 6ec7 1 0 1 23ed1 1 0 1 6df9 1 0 1 6f6e 1 0 1
    23f5e 1 0 1 23f8e 1 0 1 6fc6 1 0 1 7039 1 0 1 701e 1 0 1 701b 1 0 1 3d96 1 0 1 704a 1 0 1
    707d 1 0 1 7077 1 0 1 70ad 1 0 1 20525 1 0 1 7145 1 0 1 24263 1 0 1 719c 1 0 1 243ab 1 0 1
    7228 1 0 1 7235 1 0 1 7250 1 0 1 24608 1 0 1 7280 1 0 1 7295 1 0 1 24735 1 0 1 24814 1 0 1
    737a 1 0 1 738b 1 0 1 3eac 1 0 1 73a5 1 0 1 3eb8 1 0 1 3eb8 1 0 1 7447 1 0 1 745c 1 0 1 7471
    1 0 1 7485 1 0 1 74ca 1 0 1 3f1b 1 0 1 7524 1 0 1 24c36 1 0 1 753e 1 0 1 24c92 1 0 1 7570 1
    0 1 2219f 1 0 1 7610 1 0 1 24fa1 1 0 1 24fb8 1 0 1 25044 1 0 1 3ffc 1 0 1 4008 1 0 1 76f4 1
    0 1 250f3 1 0 1 250f2 1 0 1 25119 1 0 1 25133 1 1 1 771e 2 0 1 771f 1 0 1 774a 1 0 1 4039 1
    0 1 778b 1 0 1 4046 1 0 1 4096 1 0 1 2541d 1 0 1 784e 1 0 1 788c 1 0 1 78cc 1 0 1 40e3 1 0 1
    25626 1 0 1 7956 1 0 1 2569a 1 0 1 256c5 1 0 1 798f 1 0 1 79eb 1 0 1 412f 1 0 1 7a40 1 0 1
    7a4a 1 0 1 7a4f 1 0 1 2597c 1 0 1 25aa7 1 0 1 25aa7 1 0 1 7aee 1 0 1 4202 1 0 1 25bab 1 0 1
    7bc6 1 0 1 7bc9 1 0 1 4227 1 0 1 25c80 1 0 1 7cd2 1 0 1 42a0 1 0 1 7ce8 1 0 1 7ce3 1 0 1
    7d00 1 0 1 25f86 1 0 1 7d63 1 0 1 4301 1 0 1 7dc7 1 0 1 7e02 1 0 1 7e45 1 0 1 4334 1 0 1
    26228 1 0 1 26247 1 0 1 4359 1 0 1 262d9 1 0 1 7f7a 1 0 1 2633e 1 0 1 7f95 1 0 1 7ffa 1 0 1
    8005 1 0 1 264da 1 0 1 26523 1 0 1 8060 1 0 1 265a8 1 0 1 8070 1 0 1 2335f 1 0 1 43d5 1 0 1
    80b2 1 0 1 8103 1 0 1 440b 1 0 1 813e 1 0 1 5ab5 1 0 1 267a7 1 0 1 267b5 1 0 1 23393 1 0 1
    2339c 1 0 1 8201 1 0 1 8204 1 0 1 8f9e 1 0 1 446b 1 0 1 8291 1 0 1 828b 1 0 1 829d 1 0 1
    52b3 1 0 1 82b1 1 0 1 82b3 1 0 1 82bd 1 0 1 82e6 1 0 1 26b3c 1 0 1 82e5 1 0 1 831d 1 0 1
    8363 1 0 1 83ad 1 0 1 8323 1 0 1 83bd 1 0 1 83e7 1 0 1 8457 1 0 1 8353 1 0 1 83ca 1 0 1 83cc
    1 0 1 83dc 1 0 1 26c36 1 0 1 26d6b 1 0 1 26cd5 1 0 1 452b 1 0 1 84f1 1 0 1 84f3 1 0 1 8516 1
    0 1 273ca 1 0 1 8564 1 0 1 26f2c 1 0 1 455d 1 0 1 4561 1 0 1 26fb1 1 0 1 270d2 1 0 1 456b 1
    0 1 8650 1 0 1 865c 1 0 1 8667 1 0 1 8669 1 0 1 86a9 1 0 1 8688 1 0 1 870e 1 0 1 86e2 1 0 1
    8779 1 0 1 8728 1 0 1 876b 1 0 1 8786 1 0 1 45d7 1 0 1 87e1 1 0 1 8801 1 0 1 45f9 1 0 1 8860
    1 0 1 8863 1 0 1 27667 1 0 1 88d7 1 0 1 88de 1 0 1 4635 1 0 1 88fa 1 0 1 34bb 1 0 1 278ae 1
    0 1 27966 1 0 1 46be 1 0 1 46c7 1 0 1 8aa0 1 0 1 8aed 1 0 1 8b8a 1 0 1 8c55 1 0 1 27ca8 1 0
    1 8cab 1 0 1 8cc1 1 0 1 8d1b 1 0 1 8d77 1 0 1 27f2f 1 0 1 20804 1 0 1 8dcb 1 0 1 8dbc 1 0 1
    8df0 1 0 1 208de 1 0 1 8ed4 1 0 1 8f38 1 0 1 285d2 1 0 1 285ed 1 0 1 9094 1 0 1 90f1 1 0 1
    9111 1 0 1 2872e 1 0 1 911b 1 0 1 9238 1 1 1 92d7 2 0 1 927c 1 0 1 93f9 1 0 1 9415 1 0 1
    28bfa 1 0 1 958b 1 0 1 4995 1 0 1 95b7 1 0 1 28d77 1 0 1 49e6 1 0 1 96c3 1 0 1 5db2 1 0 1
    9723 1 0 1 29145 1 0 1 2921a 1 0 1 4a6e 1 0 1 4a76 1 0 1 97e0 1 0 1 2940a 1 0 1 4ab2 1 0 1
    29496 1 0 1 980b 1 0 1 980b 1 0 1 9829 1 0 1 295b6 1 0 1 98e2 1 0 1 4b33 1 0 1 9929 1 0 1
    99a7 1 0 1 99c2 1 0 1 99fe 1 0 1 4bce 1 0 1 29b30 1 0 1 9b12 1 0 1 9c40 1 0 1 9cfd 1 0 1
    4cce 1 0 1 4ced 1 0 1 9d67 1 0 1 2a0ce 1 0 1 4cf8 1 0 1 2a105 1 0 1 2a20e 1 0 1 2a291 1 0 1
    9ebb 1 0 1 4d56 1 0 1 9ef9 1 0 1 9efe 1 0 1 9f05 1 0 1 9f0f 1 0 1 9f16 1 0 1 9f3b 1 0 1
    2a600"
  "c0 2 41 300 c1 2 41 301 c2 2 41 302 c3 2 41 303 c4 2 41 308 c5 2 41 30a c7 2 43 327 c8 2 45
    300 c9 2 45 301 ca 2 45 302 cb 2 45 308 cc 2 49 300 cd 2 49 301 ce 2 49 302 cf 2 49 308 d1 2
    4e 303 d2 2 4f 300 d3 2 4f 301 d4 2 4f 302 d5 2 4f 303 d6 2 4f 308 d9 2 55 300 da 2 55 301
    db 2 55 302 dc 2 55 308 dd 2 59 301 e0 2 61 300 e1 2 61 301 e2 2 61 302 e3 2 61 303 e4 2 61
    308 e5 2 61 30a e7 2 63 327 e8 2 65 300 e9 2 65 301 ea 2 65 302 eb 2 65 308 ec 2 69 300 ed 2
    69 301 ee 2 69 302 ef 2 69 308 f1 2 6e 303 f2 2 6f 300 f3 2 6f 301 f4 2 6f 302 f5 2 6f 303
    f6 2 6f 308 f9 2 75 300 fa 2 75 301 fb 2 75 302 fc 2 75 308 fd 2 79 301 ff 2 79 308 100 2 41
    304 101 2 61 304 102 2 41 306 103 2 61 306 104 2 41 328 105 2 61 328 106 2 43 301 107 2 63
    301 108 2 43 302 109 2 63 302 10a 2 43 307 10b 2 63 307 10c 2 43 30c 10d 2 63 30c 10e 2 44
    30c 10f 2 64 30c 112 2 45 304 113 2 65 304 114 2 45 306 115 2 65 306 116 2 45 307 117 2 65
    307 118 2 45 328 119 2 65 328 11a 2 45 30c 11b 2 65 30c 11c 2 47 302 11d 2 67 302 11e 2 47
    306 11f 2 67 306 120 2 47 307 121 2 67 307 122 2 47 327 123 2 67 327 124 2 48 302 125 2 68
    302 128 2 49 303 129 2 69 303 12a 2 49 304 12b 2 69 304 12c 2 49 306 12d 2 69 306 12e 2 49
    328 12f 2 69 328 130 2 49 307 132 2 49 4a 133 2 69 6a 134 2 4a 302 135 2 6a 302 136 2 4b 327
    137 2 6b 327 139 2 4c 301 13a 2 6c 301 13b 2 4c 327 13c 2 6c 327 13d 2 4c 30c 13e 2 6c 30c
    13f 2 4c b7 140 2 6c b7 143 2 4e 301 144 2 6e 301 145 2 4e 327 146 2 6e 327 147 2 4e 30c 148
    2 6e 30c 149 2 2bc 6e 14c 2 4f 304 14d 2 6f 304 14e 2 4f 306 14f 2 6f 306 150 2 4f 30b 151 2
    6f 30b 154 2 52 301 155 2 72 301 156 2 52 327 157 2 72 327 158 2 52 30c 159 2 72 30c 15a 2
    53 301 15b 2 73 301 15c 2 53 302 15d 2 73 302 15e 2 53 327 15f 2 73 327 160 2 53 30c 161 2
    73 30c 162 2 54 327 163 2 74 327 164 2 54 30c 165 2 74 30c 168 2 55 303 169 2 75 303 16a 2
    55 304 16b 2 75 304 16c 2 55 306 16d 2 75 306 16e 2 55 30a 16f 2 75 30a 170 2 55 30b 171 2
    75 30b 172 2 55 328 173 2 75 328 174 2 57 302 175 2 77 302 176 2 59 302 177 2 79 302 178 2
    59 308 179 2 5a 301 17a 2 7a 301 17b 2 5a 307 17c 2 7a 307 17d 2 5a 30c 17e 2 7a 30c 1a0 2
    4f 31b 1a1 2 6f 31b 1af 2 55 31b 1b0 2 75 31b 1c4 3 44 5a 30c 1c5 3 44 7a 30c 1c6 3 64 7a
    30c 1c7 2 4c 4a 1c8 2 4c 6a 1c9 2 6c 6a 1ca 2 4e 4a 1cb 2 4e 6a 1cc 2 6e 6a 1cd 2 41 30c 1ce
    2 61 30c 1cf 2 49 30c 1d0 2 69 30c 1d1 2 4f 30c 1d2 2 6f 30c 1d3 2 55 30c 1d4 2 75 30c 1d5 3
    55 308 304 1d6 3 75 308 304 1d7 3 55 308 301 1d8 3 75 308 301 1d9 3 55 308 30c 1da 3 75 308
    30c 1db 3 55 308 300 1dc 3 75 308 300 1de 3 41 308 304 1df 3 61 308 304 1e0 3 41 307 304 1e1
    3 61 307 304 1e2 2 c6 304 1e3 2 e6 304 1e6 2 47 30c 1e7 2 67 30c 1e8 2 4b 30c 1e9 2 6b 30c
    1ea 2 4f 328 1eb 2 6f 328 1ec 3 4f 328 304 1ed 3 6f 328 304 1ee 2 1b7 30c 1ef 2 292 30c 1f0
    2 6a 30c 1f1 2 44 5a 1f2 2 44 7a 1f3 2 64 7a 1f4 2 47 301 1f5 2 67 301 1f8 2 4e 300 1f9 2 6e
    300 1fa 3 41 30a 301 1fb 3 61 30a 301 1fc 2 c6 301 1fd 2 e6 301 1fe 2 d8 301 1ff 2 f8 301
    200 2 41 30f 201 2 61 30f 202 2 41 311 203 2 61 311 204 2 45 30f 205 2 65 30f 206 2 45 311
    207 2 65 311 208 2 49 30f 209 2 69 30f 20a 2 49 311 20b 2 69 311 20c 2 4f 30f 20d 2 6f 30f
    20e 2 4f 311 20f 2 6f 311 210 2 52 30f 211 2 72 30f 212 2 52 311 213 2 72 311 214 2 55 30f
    215 2 75 30f 216 2 55 311 217 2 75 311 218 2 53 326 219 2 73 326 21a 2 54 326 21b 2 74 326
    21e 2 48 30c 21f 2 68 30c 226 2 41 307 227 2 61 307 228 2 45 327 229 2 65 327 22a 3 4f 308
    304 22b 3 6f 308 304 22c 3 4f 303 304 22d 3 6f 303 304 22e 2 4f 307 22f 2 6f 307 230 3 4f
    307 304 231 3 6f 307 304 232 2 59 304 233 2 79 304 344 2 308 301 386 2 391 301 388 2 395 301
    389 2 397 301 38a 2 399 301 38c 2 39f 301 38e 2 3a5 301 38f 2 3a9 301 390 3 3b9 308 301 3aa
    2 399 308 3ab 2 3a5 308 3ac 2 3b1 301 3ad 2 3b5 301 3ae 2 3b7 301 3af 2 3b9 301 3b0 3 3c5
    308 301 3ca 2 3b9 308 3cb 2 3c5 308 3cc 2 3bf 301 3cd 2 3c5 301 3ce 2 3c9 301 3d3 2 3a5 301
    3d4 2 3a5 308 400 2 415 300 401 2 415 308 403 2 413 301 407 2 406 308 40c 2 41a 301 40d 2
    418 300 40e 2 423 306 419 2 418 306 439 2 438 306 450 2 435 300 451 2 435 308 453 2 433 301
    457 2 456 308 45c 2 43a 301 45d 2 438 300 45e 2 443 306 476 2 474 30f 477 2 475 30f 4c1 2
    416 306 4c2 2 436 306 4d0 2 410 306 4d1 2 430 306 4d2 2 410 308 4d3 2 430 308 4d6 2 415 306
    4d7 2 435 306 4da 2 4d8 308 4db 2 4d9 308 4dc 2 416 308 4dd 2 436 308 4de 2 417 308 4df 2
    437 308 4e2 2 418 304 4e3 2 438 304 4e4 2 418 308 4e5 2 438 308 4e6 2 41e 308 4e7 2 43e 308
    4ea 2 4e8 308 4eb 2 4e9 308 4ec 2 42d 308 4ed 2 44d 308 4ee 2 423 304 4ef 2 443 304 4f0 2
    423 308 4f1 2 443 308 4f2 2 423 30b 4f3 2 443 30b 4f4 2 427 308 4f5 2 447 308 4f8 2 42b 308
    4f9 2 44b 308 587 2 565 582 622 2 627 653 623 2 627 654 624 2 648 654 625 2 627 655 626 2
    64a 654 675 2 627 674 676 2 648 674 677 2 6c7 674 678 2 64a 674 6c0 2 6d5 654 6c2 2 6c1 654
    6d3 2 6d2 654 929 2 928 93c 931 2 930 93c 934 2 933 93c 958 2 915 93c 959 2 916 93c 95a 2
    917 93c 95b 2 91c 93c 95c 2 921 93c 95d 2 922 93c 95e 2 92b 93c 95f 2 92f 93c 9cb 2 9c7 9be
    9cc 2 9c7 9d7 9dc 2 9a1 9bc 9dd 2 9a2 9bc 9df 2 9af 9bc a33 2 a32 a3c a36 2 a38 a3c a59 2
    a16 a3c a5a 2 a17 a3c a5b 2 a1c a3c a5e 2 a2b a3c b48 2 b47 b56 b4b 2 b47 b3e b4c 2 b47 b57
    b5c 2 b21 b3c b5d 2 b22 b3c b94 2 b92 bd7 bca 2 bc6 bbe bcb 2 bc7 bbe bcc 2 bc6 bd7 c48 2
    c46 c56 cc0 2 cbf cd5 cc7 2 cc6 cd5 cc8 2 cc6 cd6 cca 2 cc6 cc2 ccb 3 cc6 cc2 cd5 d4a 2 d46
    d3e d4b 2 d47 d3e d4c 2 d46 d57 dda 2 dd9 dca ddc 2 dd9 dcf ddd 3 dd9 dcf dca dde 2 dd9 ddf
    e33 2 e4d e32 eb3 2 ecd eb2 edc 2 eab e99 edd 2 eab ea1 f43 2 f42 fb7 f4d 2 f4c fb7 f52 2
    f51 fb7 f57 2 f56 fb7 f5c 2 f5b fb7 f69 2 f40 fb5 f73 2 f71 f72 f75 2 f71 f74 f76 2 fb2 f80
    f77 3 fb2 f71 f80 f78 2 fb3 f80 f79 3 fb3 f71 f80 f81 2 f71 f80 f93 2 f92 fb7 f9d 2 f9c fb7
    fa2 2 fa1 fb7 fa7 2 fa6 fb7 fac 2 fab fb7 fb9 2 f90 fb5 1026 2 1025 102e 1b06 2 1b05 1b35
    1b08 2 1b07 1b35 1b0a 2 1b09 1b35 1b0c 2 1b0b 1b35 1b0e 2 1b0d 1b35 1b12 2 1b11 1b35 1b3b 2
    1b3a 1b35 1b3d 2 1b3c 1b35 1b40 2 1b3e 1b35 1b41 2 1b3f 1b35 1b43 2 1b42 1b35 1e00 2 41 325
    1e01 2 61 325 1e02 2 42 307 1e03 2 62 307 1e04 2 42 323 1e05 2 62 323 1e06 2 42 331 1e07 2
    62 331 1e08 3 43 327 301 1e09 3 63 327 301 1e0a 2 44 307 1e0b 2 64 307 1e0c 2 44 323 1e0d 2
    64 323 1e0e 2 44 331 1e0f 2 64 331 1e10 2 44 327 1e11 2 64 327 1e12 2 44 32d 1e13 2 64 32d
    1e14 3 45 304 300 1e15 3 65 304 300 1e16 3 45 304 301 1e17 3 65 304 301 1e18 2 45 32d 1e19 2
    65 32d 1e1a 2 45 330 1e1b 2 65 330 1e1c 3 45 327 306 1e1d 3 65 327 306 1e1e 2 46 307 1e1f 2
    66 307 1e20 2 47 304 1e21 2 67 304 1e22 2 48 307 1e23 2 68 307 1e24 2 48 323 1e25 2 68 323
    1e26 2 48 308 1e27 2 68 308 1e28 2 48 327 1e29 2 68 327 1e2a 2 48 32e 1e2b 2 68 32e 1e2c 2
    49 330 1e2d 2 69 330 1e2e 3 49 308 301 1e2f 3 69 308 301 1e30 2 4b 301 1e31 2 6b 301 1e32 2
    4b 323 1e33 2 6b 323 1e34 2 4b 331 1e35 2 6b 331 1e36 2 4c 323 1e37 2 6c 323 1e38 3 4c 323
    304 1e39 3 6c 323 304 1e3a 2 4c 331 1e3b 2 6c 331 1e3c 2 4c 32d 1e3d 2 6c 32d 1e3e 2 4d 301
    1e3f 2 6d 301 1e40 2 4d 307 1e41 2 6d 307 1e42 2 4d 323 1e43 2 6d 323 1e44 2 4e 307 1e45 2
    6e 307 1e46 2 4e 323 1e47 2 6e 323 1e48 2 4e 331 1e49 2 6e 331 1e4a 2 4e 32d 1e4b 2 6e 32d
    1e4c 3 4f 303 301 1e4d 3 6f 303 301 1e4e 3 4f 303 308 1e4f 3 6f 303 308 1e50 3 4f 304 300
    1e51 3 6f 304 300 1e52 3 4f 304 301 1e53 3 6f 304 301 1e54 2 50 301 1e55 2 70 301 1e56 2 50
    307 1e57 2 70 307 1e58 2 52 307 1e59 2 72 307 1e5a 2 52 323 1e5b 2 72 323 1e5c 3 52 323 304
    1e5d 3 72 323 304 1e5e 2 52 331 1e5f 2 72 331 1e60 2 53 307 1e61 2 73 307 1e62 2 53 323 1e63
    2 73 323 1e64 3 53 301 307 1e65 3 73 301 307 1e66 3 53 30c 307 1e67 3 73 30c 307 1e68 3 53
    323 307 1e69 3 73 323 307 1e6a 2 54 307 1e6b 2 74 307 1e6c 2 54 323 1e6d 2 74 323 1e6e 2 54
    331 1e6f 2 74 331 1e70 2 54 32d 1e71 2 74 32d 1e72 2 55 324 1e73 2 75 324 1e74 2 55 330 1e75
    2 75 330 1e76 2 55 32d 1e77 2 75 32d 1e78 3 55 303 301 1e79 3 75 303 301 1e7a 3 55 304 308
    1e7b 3 75 304 308 1e7c 2 56 303 1e7d 2 76 303 1e7e 2 56 323 1e7f 2 76 323 1e80 2 57 300 1e81
    2 77 300 1e82 2 57 301 1e83 2 77 301 1e84 2 57 308 1e85 2 77 308 1e86 2 57 307 1e87 2 77 307
    1e88 2 57 323 1e89 2 77 323 1e8a 2 58 307 1e8b 2 78 307 1e8c 2 58 308 1e8d 2 78 308 1e8e 2
    59 307 1e8f 2 79 307 1e90 2 5a 302 1e91 2 7a 302 1e92 2 5a 323 1e93 2 7a 323 1e94 2 5a 331
    1e95 2 7a 331 1e96 2 68 331 1e97 2 74 308 1e98 2 77 30a 1e99 2 79 30a 1e9a 2 61 2be 1e9b 2
    73 307 1ea0 2 41 323 1ea1 2 61 323 1ea2 2 41 309 1ea3 2 61 309 1ea4 3 41 302 301 1ea5 3 61
    302 301 1ea6 3 41 302 300 1ea7 3 61 302 300 1ea8 3 41 302 309 1ea9 3 61 302 309 1eaa 3 41
    302 303 1eab 3 61 302 303 1eac 3 41 323 302 1ead 3 61 323 302 1eae 3 41 306 301 1eaf 3 61
    306 301 1eb0 3 41 306 300 1eb1 3 61 306 300 1eb2 3 41 306 309 1eb3 3 61 306 309 1eb4 3 41
    306 303 1eb5 3 61 306 303 1eb6 3 41 323 306 1eb7 3 61 323 306 1eb8 2 45 323 1eb9 2 65 323
    1eba 2 45 309 1ebb 2 65 309 1ebc 2 45 303 1ebd 2 65 303 1ebe 3 45 302 301 1ebf 3 65 302 301
    1ec0 3 45 302 300 1ec1 3 65 302 300 1ec2 3 45 302 309 1ec3 3 65 302 309 1ec4 3 45 302 303
    1ec5 3 65 302 303 1ec6 3 45 323 302 1ec7 3 65 323 302 1ec8 2 49 309 1ec9 2 69 309 1eca 2 49
    323 1ecb 2 69 323 1ecc 2 4f 323 1ecd 2 6f 323 1ece 2 4f 309 1ecf 2 6f 309 1ed0 3 4f 302 301
    1ed1 3 6f 302 301 1ed2 3 4f 302 300 1ed3 3 6f 302 300 1ed4 3 4f 302 309 1ed5 3 6f 302 309
    1ed6 3 4f 302 303 1ed7 3 6f 302 303 1ed8 3 4f 323 302 1ed9 3 6f 323 302 1eda 3 4f 31b 301
    1edb 3 6f 31b 301 1edc 3 4f 31b 300 1edd 3 6f 31b 300 1ede 3 4f 31b 309 1edf 3 6f 31b 309
    1ee0 3 4f 31b 303 1ee1 3 6f 31b 303 1ee2 3 4f 31b 323 1ee3 3 6f 31b 323 1ee4 2 55 323 1ee5 2
    75 323 1ee6 2 55 309 1ee7 2 75 309 1ee8 3 55 31b 301 1ee9 3 75 31b 301 1eea 3 55 31b 300
    1eeb 3 75 31b 300 1eec 3 55 31b 309 1eed 3 75 31b 309 1eee 3 55 31b 303 1eef 3 75 31b 303
    1ef0 3 55 31b 323 1ef1 3 75 31b 323 1ef2 2 59 300 1ef3 2 79 300 1ef4 2 59 323 1ef5 2 79 323
    1ef6 2 59 309 1ef7 2 79 309 1ef8 2 59 303 1ef9 2 79 303 1f00 2 3b1 313 1f01 2 3b1 314 1f02 3
    3b1 313 300 1f03 3 3b1 314 300 1f04 3 3b1 313 301 1f05 3 3b1 314 301 1f06 3 3b1 313 342 1f07
    3 3b1 314 342 1f08 2 391 313 1f09 2 391 314 1f0a 3 391 313 300 1f0b 3 391 314 300 1f0c 3 391
    313 301 1f0d 3 391 314 301 1f0e 3 391 313 342 1f0f 3 391 314 342 1f10 2 3b5 313 1f11 2 3b5
    314 1f12 3 3b5 313 300 1f13 3 3b5 314 300 1f14 3 3b5 313 301 1f15 3 3b5 314 301 1f18 2 395
    313 1f19 2 395 314 1f1a 3 395 313 300 1f1b 3 395 314 300 1f1c 3 395 313 301 1f1d 3 395 314
    301 1f20 2 3b7 313 1f21 2 3b7 314 1f22 3 3b7 313 300 1f23 3 3b7 314 300 1f24 3 3b7 313 301
    1f25 3 3b7 314 301 1f26 3 3b7 313 342 1f27 3 3b7 314 342 1f28 2 397 313 1f29 2 397 314 1f2a
    3 397 313 300 1f2b 3 397 314 300 1f2c 3 397 313 301 1f2d 3 397 314 301 1f2e 3 397 313 342
    1f2f 3 397 314 342 1f30 2 3b9 313 1f31 2 3b9 314 1f32 3 3b9 313 300 1f33 3 3b9 314 300 1f34
    3 3b9 313 301 1f35 3 3b9 314 301 1f36 3 3b9 313 342 1f37 3 3b9 314 342 1f38 2 399 313 1f39 2
    399 314 1f3a 3 399 313 300 1f3b 3 399 314 300 1f3c 3 399 313 301 1f3d 3 399 314 301 1f3e 3
    399 313 342 1f3f 3 399 314 342 1f40 2 3bf 313 1f41 2 3bf 314 1f42 3 3bf 313 300 1f43 3 3bf
    314 300 1f44 3 3bf 313 301 1f45 3 3bf 314 301 1f48 2 39f 313 1f49 2 39f 314 1f4a 3 39f 313
    300 1f4b 3 39f 314 300 1f4c 3 39f 313 301 1f4d 3 39f 314 301 1f50 2 3c5 313 1f51 2 3c5 314
    1f52 3 3c5 313 300 1f53 3 3c5 314 300 1f54 3 3c5 313 301 1f55 3 3c5 314 301 1f56 3 3c5 313
    342 1f57 3 3c5 314 342 1f59 2 3a5 314 1f5b 3 3a5 314 300 1f5d 3 3a5 314 301 1f5f 3 3a5 314
    342 1f60 2 3c9 313 1f61 2 3c9 314 1f62 3 3c9 313 300 1f63 3 3c9 314 300 1f64 3 3c9 313 301
    1f65 3 3c9 314 301 1f66 3 3c9 313 342 1f67 3 3c9 314 342 1f68 2 3a9 313 1f69 2 3a9 314 1f6a
    3 3a9 313 300 1f6b 3 3a9 314 300 1f6c 3 3a9 313 301 1f6d 3 3a9 314 301 1f6e 3 3a9 313 342
    1f6f 3 3a9 314 342 1f70 2 3b1 300 1f71 2 3b1 301 1f72 2 3b5 300 1f73 2 3b5 301 1f74 2 3b7
    300 1f75 2 3b7 301 1f76 2 3b9 300 1f77 2 3b9 301 1f78 2 3bf 300 1f79 2 3bf 301 1f7a 2 3c5
    300 1f7b 2 3c5 301 1f7c 2 3c9 300 1f7d 2 3c9 301 1f80 3 3b1 313 345 1f81 3 3b1 314 345 1f82
    4 3b1 313 300 345 1f83 4 3b1 314 300 345 1f84 4 3b1 313 301 345 1f85 4 3b1 314 301 345 1f86
    4 3b1 313 342 345 1f87 4 3b1 314 342 345 1f88 3 391 313 345 1f89 3 391 314 345 1f8a 4 391
    313 300 345 1f8b 4 391 314 300 345 1f8c 4 391 313 301 345 1f8d 4 391 314 301 345 1f8e 4 391
    313 342 345 1f8f 4 391 314 342 345 1f90 3 3b7 313 345 1f91 3 3b7 314 345 1f92 4 3b7 313 300
    345 1f93 4 3b7 314 300 345 1f94 4 3b7 313 301 345 1f95 4 3b7 314 301 345 1f96 4 3b7 313 342
    345 1f97 4 3b7 314 342 345 1f98 3 397 313 345 1f99 3 397 314 345 1f9a 4 397 313 300 345 1f9b
    4 397 314 300 345 1f9c 4 397 313 301 345 1f9d 4 397 314 301 345 1f9e 4 397 313 342 345 1f9f
    4 397 314 342 345 1fa0 3 3c9 313 345 1fa1 3 3c9 314 345 1fa2 4 3c9 313 300 345 1fa3 4 3c9
    314 300 345 1fa4 4 3c9 313 301 345 1fa5 4 3c9 314 301 345 1fa6 4 3c9 313 342 345 1fa7 4 3c9
    314 342 345 1fa8 3 3a9 313 345 1fa9 3 3a9 314 345 1faa 4 3a9 313 300 345 1fab 4 3a9 314 300
    345 1fac 4 3a9 313 301 345 1fad 4 3a9 314 301 345 1fae 4 3a9 313 342 345 1faf 4 3a9 314 342
    345 1fb0 2 3b1 306 1fb1 2 3b1 304 1fb2 3 3b1 300 345 1fb3 2 3b1 345 1fb4 3 3b1 301 345 1fb6
    2 3b1 342 1fb7 3 3b1 342 345 1fb8 2 391 306 1fb9 2 391 304 1fba 2 391 300 1fbb 2 391 301
    1fbc 2 391 345 1fc2 3 3b7 300 345 1fc3 2 3b7 345 1fc4 3 3b7 301 345 1fc6 2 3b7 342 1fc7 3
    3b7 342 345 1fc8 2 395 300 1fc9 2 395 301 1fca 2 397 300 1fcb 2 397 301 1fcc 2 397 345 1fd0
    2 3b9 306 1fd1 2 3b9 304 1fd2 3 3b9 308 300 1fd3 3 3b9 308 301 1fd6 2 3b9 342 1fd7 3 3b9 308
    342 1fd8 2 399 306 1fd9 2 399 304 1fda 2 399 300 1fdb 2 399 301 1fe0 2 3c5 306 1fe1 2 3c5
    304 1fe2 3 3c5 308 300 1fe3 3 3c5 308 301 1fe4 2 3c1 313 1fe5 2 3c1 314 1fe6 2 3c5 342 1fe7
    3 3c5 308 342 1fe8 2 3a5 306 1fe9 2 3a5 304 1fea 2 3a5 300 1feb 2 3a5 301 1fec 2 3a1 314
    1ff2 3 3c9 300 345 1ff3 2 3c9 345 1ff4 3 3c9 301 345 1ff6 2 3c9 342 1ff7 3 3c9 342 345 1ff8
    2 39f 300 1ff9 2 39f 301 1ffa 2 3a9 300 1ffb 2 3a9 301 1ffc 2 3a9 345 212b 2 41 30a 2161 2
    49 49 2162 3 49 49 49 2163 2 49 56 2165 2 56 49 2166 3 56 49 49 2167 4 56 49 49 49 2168 2 49
    58 216a 2 58 49 216b 3 58 49 49 2171 2 69 69 2172 3 69 69 69 2173 2 69 76 2175 2 76 69 2176
    3 76 69 69 2177 4 76 69 69 69 2178 2 69 78 217a 2 78 69 217b 3 78 69 69 304c 2 304b 3099
    304e 2 304d 3099 3050 2 304f 3099 3052 2 3051 3099 3054 2 3053 3099 3056 2 3055 3099 3058 2
    3057 3099 305a 2 3059 3099 305c 2 305b 3099 305e 2 305d 3099 3060 2 305f 3099 3062 2 3061
    3099 3065 2 3064 3099 3067 2 3066 3099 3069 2 3068 3099 3070 2 306f 3099 3071 2 306f 309a
    3073 2 3072 3099 3074 2 3072 309a 3076 2 3075 3099 3077 2 3075 309a 3079 2 3078 3099 307a 2
    3078 309a 307c 2 307b 3099 307d 2 307b 309a 3094 2 3046 3099 309e 2 309d 3099 309f 2 3088
    308a 30ac 2 30ab 3099 30ae 2 30ad 3099 30b0 2 30af 3099 30b2 2 30b1 3099 30b4 2 30b3 3099
    30b6 2 30b5 3099 30b8 2 30b7 3099 30ba 2 30b9 3099 30bc 2 30bb 3099 30be 2 30bd 3099 30c0 2
    30bf 3099 30c2 2 30c1 3099 30c5 2 30c4 3099 30c7 2 30c6 3099 30c9 2 30c8 3099 30d0 2 30cf
    3099 30d1 2 30cf 309a 30d3 2 30d2 3099 30d4 2 30d2 309a 30d6 2 30d5 3099 30d7 2 30d5 309a
    30d9 2 30d8 3099 30da 2 30d8 309a 30dc 2 30db 3099 30dd 2 30db 309a 30f4 2 30a6 3099 30f7 2
    30ef 3099 30f8 2 30f0 3099 30f9 2 30f1 3099 30fa 2 30f2 3099 30fe 2 30fd 3099 30ff 2 30b3
    30c8 fb00 2 66 66 fb01 2 66 69 fb02 2 66 6c fb03 3 66 66 69 fb04 3 66 66 6c fb05 2 73 74
    fb06 2 73 74 fb13 2 574 576 fb14 2 574 565 fb15 2 574 56b fb16 2 57e 576 fb17 2 574 56d fb1d
    2 5d9 5b4 fb1f 2 5f2 5b7 fb2a 2 5e9 5c1 fb2b 2 5e9 5c2 fb2c 3 5e9 5bc 5c1 fb2d 3 5e9 5bc 5c2
    fb2e 2 5d0 5b7 fb2f 2 5d0 5b8 fb30 2 5d0 5bc fb31 2 5d1 5bc fb32 2 5d2 5bc fb33 2 5d3 5bc
    fb34 2 5d4 5bc fb35 2 5d5 5bc fb36 2 5d6 5bc fb38 2 5d8 5bc fb39 2 5d9 5bc fb3a 2 5da 5bc
    fb3b 2 5db 5bc fb3c 2 5dc 5bc fb3e 2 5de 5bc fb40 2 5e0 5bc fb41 2 5e1 5bc fb43 2 5e3 5bc
    fb44 2 5e4 5bc fb46 2 5e6 5bc fb47 2 5e7 5bc fb48 2 5e8 5bc fb49 2 5e9 5bc fb4a 2 5ea 5bc
    fb4b 2 5d5 5b9 fb4c 2 5d1 5bf fb4d 2 5db 5bf fb4e 2 5e4 5bf fb4f 2 5d0 5dc fba4 2 6d5 654
    fba5 2 6d5 654 fbb0 2 6d2 654 fbb1 2 6d2 654 fbdd 2 6c7 674 fbea 3 64a 654 627 fbeb 3 64a
    654 627 fbec 3 64a 654 6d5 fbed 3 64a 654 6d5 fbee 3 64a 654 648 fbef 3 64a 654 648 fbf0 3
    64a 654 6c7 fbf1 3 64a 654 6c7 fbf2 3 64a 654 6c6 fbf3 3 64a 654 6c6 fbf4 3 64a 654 6c8 fbf5
    3 64a 654 6c8 fbf6 3 64a 654 6d0 fbf7 3 64a 654 6d0 fbf8 3 64a 654 6d0 fbf9 3 64a 654 649
    fbfa 3 64a 654 649 fbfb 3 64a 654 649 fc00 3 64a 654 62c fc01 3 64a 654 62d fc02 3 64a 654
    645 fc03 3 64a 654 649 fc04 3 64a 654 64a fc05 2 628 62c fc06 2 628 62d fc07 2 628 62e fc08
    2 628 645 fc09 2 628 649 fc0a 2 628 64a fc0b 2 62a 62c fc0c 2 62a 62d fc0d 2 62a 62e fc0e 2
    62a 645 fc0f 2 62a 649 fc10 2 62a 64a fc11 2 62b 62c fc12 2 62b 645 fc13 2 62b 649 fc14 2
    62b 64a fc15 2 62c 62d fc16 2 62c 645 fc17 2 62d 62c fc18 2 62d 645 fc19 2 62e 62c fc1a 2
    62e 62d fc1b 2 62e 645 fc1c 2 633 62c fc1d 2 633 62d fc1e 2 633 62e fc1f 2 633 645 fc20 2
    635 62d fc21 2 635 645 fc22 2 636 62c fc23 2 636 62d fc24 2 636 62e fc25 2 636 645 fc26 2
    637 62d fc27 2 637 645 fc28 2 638 645 fc29 2 639 62c fc2a 2 639 645 fc2b 2 63a 62c fc2c 2
    63a 645 fc2d 2 641 62c fc2e 2 641 62d fc2f 2 641 62e fc30 2 641 645 fc31 2 641 649 fc32 2
    641 64a fc33 2 642 62d fc34 2 642 645 fc35 2 642 649 fc36 2 642 64a fc37 2 643 627 fc38 2
    643 62c fc39 2 643 62d fc3a 2 643 62e fc3b 2 643 644 fc3c 2 643 645 fc3d 2 643 649 fc3e 2
    643 64a fc3f 2 644 62c fc40 2 644 62d fc41 2 644 62e fc42 2 644 645 fc43 2 644 649 fc44 2
    644 64a fc45 2 645 62c fc46 2 645 62d fc47 2 645 62e fc48 2 645 645 fc49 2 645 649 fc4a 2
    645 64a fc4b 2 646 62c fc4c 2 646 62d fc4d 2 646 62e fc4e 2 646 645 fc4f 2 646 649 fc50 2
    646 64a fc51 2 647 62c fc52 2 647 645 fc53 2 647 649 fc54 2 647 64a fc55 2 64a 62c fc56 2
    64a 62d fc57 2 64a 62e fc58 2 64a 645 fc59 2 64a 649 fc5a 2 64a 64a fc5b 2 630 670 fc5c 2
    631 670 fc5d 2 649 670 fc64 3 64a 654 631 fc65 3 64a 654 632 fc66 3 64a 654 645 fc67 3 64a
    654 646 fc68 3 64a 654 649 fc69 3 64a 654 64a fc6a 2 628 631 fc6b 2 628 632 fc6c 2 628 645
    fc6d 2 628 646 fc6e 2 628 649 fc6f 2 628 64a fc70 2 62a 631 fc71 2 62a 632 fc72 2 62a 645
    fc73 2 62a 646 fc74 2 62a 649 fc75 2 62a 64a fc76 2 62b 631 fc77 2 62b 632 fc78 2 62b 645
    fc79 2 62b 646 fc7a 2 62b 649 fc7b 2 62b 64a fc7c 2 641 649 fc7d 2 641 64a fc7e 2 642 649
    fc7f 2 642 64a fc80 2 643 627 fc81 2 643 644 fc82 2 643 645 fc83 2 643 649 fc84 2 643 64a
    fc85 2 644 645 fc86 2 644 649 fc87 2 644 64a fc88 2 645 627 fc89 2 645 645 fc8a 2 646 631
    fc8b 2 646 632 fc8c 2 646 645 fc8d 2 646 646 fc8e 2 646 649 fc8f 2 646 64a fc90 2 649 670
    fc91 2 64a 631 fc92 2 64a 632 fc93 2 64a 645 fc94 2 64a 646 fc95 2 64a 649 fc96 2 64a 64a
    fc97 3 64a 654 62c fc98 3 64a 654 62d fc99 3 64a 654 62e fc9a 3 64a 654 645 fc9b 3 64a 654
    647 fc9c 2 628 62c fc9d 2 628 62d fc9e 2 628 62e fc9f 2 628 645 fca0 2 628 647 fca1 2 62a
    62c fca2 2 62a 62d fca3 2 62a 62e fca4 2 62a 645 fca5 2 62a 647 fca6 2 62b 645 fca7 2 62c
    62d fca8 2 62c 645 fca9 2 62d 62c fcaa 2 62d 645 fcab 2 62e 62c fcac 2 62e 645 fcad 2 633
    62c fcae 2 633 62d fcaf 2 633 62e fcb0 2 633 645 fcb1 2 635 62d fcb2 2 635 62e fcb3 2 635
    645 fcb4 2 636 62c fcb5 2 636 62d fcb6 2 636 62e fcb7 2 636 645 fcb8 2 637 62d fcb9 2 638
    645 fcba 2 639 62c fcbb 2 639 645 fcbc 2 63a 62c fcbd 2 63a 645 fcbe 2 641 62c fcbf 2 641
    62d fcc0 2 641 62e fcc1 2 641 645 fcc2 2 642 62d fcc3 2 642 645 fcc4 2 643 62c fcc5 2 643
    62d fcc6 2 643 62e fcc7 2 643 644 fcc8 2 643 645 fcc9 2 644 62c fcca 2 644 62d fccb 2 644
    62e fccc 2 644 645 fccd 2 644 647 fcce 2 645 62c fccf 2 645 62d fcd0 2 645 62e fcd1 2 645
    645 fcd2 2 646 62c fcd3 2 646 62d fcd4 2 646 62e fcd5 2 646 645 fcd6 2 646 647 fcd7 2 647
    62c fcd8 2 647 645 fcd9 2 647 670 fcda 2 64a 62c fcdb 2 64a 62d fcdc 2 64a 62e fcdd 2 64a
    645 fcde 2 64a 647 fcdf 3 64a 654 645 fce0 3 64a 654 647 fce1 2 628 645 fce2 2 628 647 fce3
    2 62a 645 fce4 2 62a 647 fce5 2 62b 645 fce6 2 62b 647 fce7 2 633 645 fce8 2 633 647 fce9 2
    634 645 fcea 2 634 647 fceb 2 643 644 fcec 2 643 645 fced 2 644 645 fcee 2 646 645 fcef 2
    646 647 fcf0 2 64a 645 fcf1 2 64a 647 fcf2 3 640 64e 651 fcf3 3 640 64f 651 fcf4 3 640 650
    651 fcf5 2 637 649 fcf6 2 637 64a fcf7 2 639 649 fcf8 2 639 64a fcf9 2 63a 649 fcfa 2 63a
    64a fcfb 2 633 649 fcfc 2 633 64a fcfd 2 634 649 fcfe 2 634 64a fcff 2 62d 649 fd00 2 62d
    64a fd01 2 62c 649 fd02 2 62c 64a fd03 2 62e 649 fd04 2 62e 64a fd05 2 635 649 fd06 2 635
    64a fd07 2 636 649 fd08 2 636 64a fd09 2 634 62c fd0a 2 634 62d fd0b 2 634 62e fd0c 2 634
    645 fd0d 2 634 631 fd0e 2 633 631 fd0f 2 635 631 fd10 2 636 631 fd11 2 637 649 fd12 2 637
    64a fd13 2 639 649 fd14 2 639 64a fd15 2 63a 649 fd16 2 63a 64a fd17 2 633 649 fd18 2 633
    64a fd19 2 634 649 fd1a 2 634 64a fd1b 2 62d 649 fd1c 2 62d 64a fd1d 2 62c 649 fd1e 2 62c
    64a fd1f 2 62e 649 fd20 2 62e 64a fd21 2 635 649 fd22 2 635 64a fd23 2 636 649 fd24 2 636
    64a fd25 2 634 62c fd26 2 634 62d fd27 2 634 62e fd28 2 634 645 fd29 2 634 631 fd2a 2 633
    631 fd2b 2 635 631 fd2c 2 636 631 fd2d 2 634 62c fd2e 2 634 62d fd2f 2 634 62e fd30 2 634
    645 fd31 2 633 647 fd32 2 634 647 fd33 2 637 645 fd34 2 633 62c fd35 2 633 62d fd36 2 633
    62e fd37 2 634 62c fd38 2 634 62d fd39 2 634 62e fd3a 2 637 645 fd3b 2 638 645 fd3c 2 627
    64b fd3d 2 627 64b fd50 3 62a 62c 645 fd51 3 62a 62d 62c fd52 3 62a 62d 62c fd53 3 62a 62d
    645 fd54 3 62a 62e 645 fd55 3 62a 645 62c fd56 3 62a 645 62d fd57 3 62a 645 62e fd58 3 62c
    645 62d fd59 3 62c 645 62d fd5a 3 62d 645 64a fd5b 3 62d 645 649 fd5c 3 633 62d 62c fd5d 3
    633 62c 62d fd5e 3 633 62c 649 fd5f 3 633 645 62d fd60 3 633 645 62d fd61 3 633 645 62c fd62
    3 633 645 645 fd63 3 633 645 645 fd64 3 635 62d 62d fd65 3 635 62d 62d fd66 3 635 645 645
    fd67 3 634 62d 645 fd68 3 634 62d 645 fd69 3 634 62c 64a fd6a 3 634 645 62e fd6b 3 634 645
    62e fd6c 3 634 645 645 fd6d 3 634 645 645 fd6e 3 636 62d 649 fd6f 3 636 62e 645 fd70 3 636
    62e 645 fd71 3 637 645 62d fd72 3 637 645 62d fd73 3 637 645 645 fd74 3 637 645 64a fd75 3
    639 62c 645 fd76 3 639 645 645 fd77 3 639 645 645 fd78 3 639 645 649 fd79 3 63a 645 645 fd7a
    3 63a 645 64a fd7b 3 63a 645 649 fd7c 3 641 62e 645 fd7d 3 641 62e 645 fd7e 3 642 645 62d
    fd7f 3 642 645 645 fd80 3 644 62d 645 fd81 3 644 62d 64a fd82 3 644 62d 649 fd83 3 644 62c
    62c fd84 3 644 62c 62c fd85 3 644 62e 645 fd86 3 644 62e 645 fd87 3 644 645 62d fd88 3 644
    645 62d fd89 3 645 62d 62c fd8a 3 645 62d 645 fd8b 3 645 62d 64a fd8c 3 645 62c 62d fd8d 3
    645 62c 645 fd8e 3 645 62e 62c fd8f 3 645 62e 645 fd92 3 645 62c 62e fd93 3 647 645 62c fd94
    3 647 645 645 fd95 3 646 62d 645 fd96 3 646 62d 649 fd97 3 646 62c 645 fd98 3 646 62c 645
    fd99 3 646 62c 649 fd9a 3 646 645 64a fd9b 3 646 645 649 fd9c 3 64a 645 645 fd9d 3 64a 645
    645 fd9e 3 628 62e 64a fd9f 3 62a 62c 64a fda0 3 62a 62c 649 fda1 3 62a 62e 64a fda2 3 62a
    62e 649 fda3 3 62a 645 64a fda4 3 62a 645 649 fda5 3 62c 645 64a fda6 3 62c 62d 649 fda7 3
    62c 645 649 fda8 3 633 62e 649 fda9 3 635 62d 64a fdaa 3 634 62d 64a fdab 3 636 62d 64a fdac
    3 644 62c 64a fdad 3 644 645 64a fdae 3 64a 62d 64a fdaf 3 64a 62c 64a fdb0 3 64a 645 64a
    fdb1 3 645 645 64a fdb2 3 642 645 64a fdb3 3 646 62d 64a fdb4 3 642 645 62d fdb5 3 644 62d
    645 fdb6 3 639 645 64a fdb7 3 643 645 64a fdb8 3 646 62c 62d fdb9 3 645 62e 64a fdba 3 644
    62c 645 fdbb 3 643 645 645 fdbc 3 644 62c 645 fdbd 3 646 62c 62d fdbe 3 62c 62d 64a fdbf 3
    62d 62c 64a fdc0 3 645 62c 64a fdc1 3 641 645 64a fdc2 3 628 62d 64a fdc3 3 643 645 645 fdc4
    3 639 62c 645 fdc5 3 635 645 645 fdc6 3 633 62e 64a fdc7 3 646 62c 64a fdf0 3 635 644 6d2
    fdf1 3 642 644 6d2 fdf2 4 627 644 644 647 fdf3 4 627 643 628 631 fdf4 4 645 62d 645 62f fdf5
    4 635 644 639 645 fdf6 4 631 633 648 644 fdf7 4 639 644 64a 647 fdf8 4 648 633 644 645 fdf9
    3 635 644 649 fe71 2 640 64b fe77 2 640 64e fe79 2 640 64f fe7b 2 640 650 fe7d 2 640 651
    fe7f 2 640 652 fe81 2 627 653 fe82 2 627 653 fe83 2 627 654 fe84 2 627 654 fe85 2 648 654
    fe86 2 648 654 fe87 2 627 655 fe88 2 627 655 fe89 2 64a 654 fe8a 2 64a 654 fe8b 2 64a 654
    fe8c 2 64a 654 fef5 3 644 627 653 fef6 3 644 627 653 fef7 3 644 627 654 fef8 3 644 627 654
    fef9 3 644 627 655 fefa 3 644 627 655 fefb 2 644 627 fefc 2 644 627 1109a 2 11099 110ba
    1109c 2 1109b 110ba 110ab 2 110a5 110ba 1112e 2 11131 11127 1112f 2 11132 11127 1134b 2
    11347 1133e 1134c 2 11347 11357 114bb 2 114b9 114ba 114bc 2 114b9 114b0 114be 2 114b9 114bd
    115ba 2 115b8 115af 115bb 2 115b9 115af 11938 2 11935 11930"

/-- The classes of the combining marks, in groups of three: distance from the last start, length
less one, class. -/
def markClassText : String :=
  "300 14 e6 15 0 e8 1 3 dc 4 0 e8 1 0 d8 1 4 dc 5 1 ca 2 3 dc 4 1 ca 2 a dc b 4 1 5 3 dc 4 7
    e6 8 0 f0 1 0 e6 1 2 dc 3 2 e6 3 1 dc 3 2 e6 3 3 dc 4 0 e6 1 0 e8 1 1 dc 2 0 e6 1 0 e9 1 1
    ea 2 0 e9 1 1 ea 2 0 e9 1 c e6 120 4 e6 10e 0 dc 1 3 e6 4 0 dc 1 2 e6 3 0 de 1 0 dc 1 5 e6 6
    5 dc 6 1 e6 2 0 dc 1 1 e6 2 0 de 1 0 e4 1 0 e6 1 0 a 1 0 b 1 0 c 1 0 d 1 0 e 1 0 f 1 0 10 1
    0 11 1 0 12 1 1 13 2 0 14 1 0 15 1 0 16 2 0 17 2 0 18 1 0 19 2 0 e6 1 0 dc 2 0 12 49 7 e6 8
    0 1e 1 0 1f 1 0 20 31 0 1b 1 0 1c 1 0 1d 1 0 1e 1 0 1f 1 0 20 1 0 21 1 0 22 1 1 e6 2 1 dc 2
    4 e6 5 0 dc 1 1 e6 2 0 dc 11 0 23 66 6 e6 9 3 e6 4 0 dc 1 0 e6 3 1 e6 3 0 dc 1 1 e6 2 0 dc
    24 0 24 1f 0 e6 1 0 dc 1 1 e6 2 0 dc 1 1 e6 2 2 dc 3 0 e6 1 1 dc 2 0 e6 1 0 dc 1 2 e6 3 0 dc
    1 0 e6 1 0 dc 1 0 e6 1 0 dc 1 0 e6 1 0 dc 1 1 e6 a2 6 e6 7 0 dc 1 0 e6 a 0 dc 19 3 e6 5 8 e6
    a 2 e6 4 4 e6 30 2 dc 3f 0 e6 1 2 dc 3 3 e6 2e 4 e6 5 4 dc 5 d e6 f 0 dc 1 1 e6 2 0 dc 1 1
    e6 2 0 dc 1 2 e6 3 2 dc 3 0 1b 1 0 1c 1 0 1d 1 2 e6 3 0 dc 1 1 e6 2 1 dc 2 4 e6 41 0 7 11 0
    9 4 0 e6 1 0 dc 1 1 e6 69 0 7 11 0 9 31 0 e6 3e 0 7 11 0 9 6f 0 7 11 0 9 6f 0 7 11 0 9 80 0
    9 6f 0 7 11 0 9 8 0 54 1 0 5b 66 0 7 11 0 9 6e 1 9 12 0 9 7d 0 9 6e 1 67 2 0 9 e 3 6b 70 1
    76 2 0 9 e 3 7a 50 1 dc 1d 0 dc 2 0 dc 2 0 d8 38 0 81 1 0 82 2 0 84 6 3 82 6 0 82 2 1 e6 2 0
    9 2 1 e6 40 0 dc 71 0 7 2 1 9 54 0 dc 2d0 2 e6 3b7 1 9 20 0 9 9e 0 9 b 0 e6 cc 0 e4 90 0 de
    1 0 e6 1 0 dc dc 0 e6 1 0 dc 48 0 9 15 7 e6 a 0 dc 31 4 e6 5 5 dc 6 1 e6 2 0 dc 2 1 dc 2 1
    e6 2 1 dc 2 4 e6 5 0 dc 1 3 e6 69 0 7 10 0 9 27 0 e6 1 0 dc 1 6 e6 3d 1 9 3c 0 7 c 1 9 45 0
    7 99 2 e6 4 0 1 1 4 dc 5 1 e6 2 3 dc 4 0 e6 2 6 1 b 0 dc 7 0 e6 4 1 e6 c8 1 e6 2 0 dc 1 6 e6
    7 0 dc 1 1 e6 2 0 ea 1 0 d6 1 0 dc 1 0 ca 1 24 e6 25 0 e8 1 1 e4 2 0 dc 1 0 da 1 0 e6 1 0 e9
    1 0 dc 1 0 e6 1 0 dc 2d1 1 e6 2 1 1 2 3 e6 4 2 1 3 1 e6 6 0 e6 4 1 1 2 0 e6 1 0 dc 1 0 e6 1
    1 1 2 3 dc 4 0 e6 bff 2 e6 90 0 9 61 1f e6 24a 0 da 1 0 e4 1 0 e8 1 0 de 1 1 e0 6b 1 8 75d6
    0 e6 5 9 e6 2a 1 e6 52 1 e6 116 0 9 26 0 9 98 0 9 1c 11 e6 4b 2 dc 28 0 9 60 0 7 d 0 9 f0 0
    e6 2 1 e6 2 0 dc 3 1 e6 7 1 e6 3 0 e6 35 0 9 f7 0 9 4f31 0 1a 302 6 e6 7 6 dc 7 1 e6 3cf 0
    dc e3 0 dc 96 4 e6 697 0 dc 2 0 e6 29 0 e6 1 0 1 1 0 dc 5 0 9 a6 0 e6 1 0 dc 23e 3 e6 187 1
    e6 9b 1 dc 2 2 e6 3 0 dc 1 0 e6 1 3 dc 35 0 e6 1 0 dc 1 0 e6 1 0 dc c1 0 9 2a 0 9 f 0 9 3a 0
    9 1 0 7 46 2 e6 33 1 9 40 0 7 4d 0 9 a 0 7 6b 0 9 1 0 7 b3 0 7 1 0 9 51 1 7 12 0 9 19 6 e6 a
    4 e6 d2 0 9 4 0 7 18 0 e6 64 0 9 1 0 7 fc 0 9 1 0 7 7f 0 9 77 0 9 1 0 7 74 0 9 10e 0 9 1 0 7
    103 1 9 6 0 7 9d 0 9 54 0 9 13 0 9 52 0 9 1a6 0 9 103 0 7 2 1 9 53 0 9 4d59 4 1 40 6 e6 4c0
    1 6 4cae 0 1 14c7 1 d8 2 2 1 6 0 e2 1 4 d8 d 7 dc a 4 e6 5 1 dc 20 3 e6 98 2 e6 dbe 6 e6 8
    10 e6 13 6 e6 8 1 e6 3 4 e6 10a 6 e6 17e 0 e6 3e 3 e6 5e4 6 dc 74 5 e6 6 0 7"

/-- The primary composites: a first character with its second characters and their composites. -/
def compositeMap : CharMap := CharMap.ofText ""
  "3c 2 338 226e 3d 2 338 2260 3e 2 338 226f 41 20 300 c0 301 c1 302 c2 303 c3 304 100 306 102
    307 226 308 c4 309 1ea2 30a c5 30c 1cd 30f 200 311 202 323 1ea0 325 1e00 328 104 42 6 307
    1e02 323 1e04 331 1e06 43 a 301 106 302 108 307 10a 30c 10c 327 c7 44 c 307 1e0a 30c 10e 323
    1e0c 327 1e10 32d 1e12 331 1e0e 45 22 300 c8 301 c9 302 ca 303 1ebc 304 112 306 114 307 116
    308 cb 309 1eba 30c 11a 30f 204 311 206 323 1eb8 327 228 328 118 32d 1e18 330 1e1a 46 2 307
    1e1e 47 e 301 1f4 302 11c 304 1e20 306 11e 307 120 30c 1e6 327 122 48 e 302 124 307 1e22 308
    1e26 30c 21e 323 1e24 327 1e28 32e 1e2a 49 1e 300 cc 301 cd 302 ce 303 128 304 12a 306 12c
    307 130 308 cf 309 1ec8 30c 1cf 30f 208 311 20a 323 1eca 328 12e 330 1e2c 4a 2 302 134 4b a
    301 1e30 30c 1e8 323 1e32 327 136 331 1e34 4c c 301 139 30c 13d 323 1e36 327 13b 32d 1e3c
    331 1e3a 4d 6 301 1e3e 307 1e40 323 1e42 4e 12 300 1f8 301 143 303 d1 307 1e44 30c 147 323
    1e46 327 145 32d 1e4a 331 1e48 4f 20 300 d2 301 d3 302 d4 303 d5 304 14c 306 14e 307 22e 308
    d6 309 1ece 30b 150 30c 1d1 30f 20c 311 20e 31b 1a0 323 1ecc 328 1ea 50 4 301 1e54 307 1e56
    52 10 301 154 307 1e58 30c 158 30f 210 311 212 323 1e5a 327 156 331 1e5e 53 e 301 15a 302
    15c 307 1e60 30c 160 323 1e62 326 218 327 15e 54 e 307 1e6a 30c 164 323 1e6c 326 21a 327 162
    32d 1e70 331 1e6e 55 26 300 d9 301 da 302 db 303 168 304 16a 306 16c 308 dc 309 1ee6 30a 16e
    30b 170 30c 1d3 30f 214 311 216 31b 1af 323 1ee4 324 1e72 328 172 32d 1e76 330 1e74 56 4 303
    1e7c 323 1e7e 57 c 300 1e80 301 1e82 302 174 307 1e86 308 1e84 323 1e88 58 4 307 1e8a 308
    1e8c 59 12 300 1ef2 301 dd 302 176 303 1ef8 304 232 307 1e8e 308 178 309 1ef6 323 1ef4 5a c
    301 179 302 1e90 307 17b 30c 17d 323 1e92 331 1e94 61 20 300 e0 301 e1 302 e2 303 e3 304 101
    306 103 307 227 308 e4 309 1ea3 30a e5 30c 1ce 30f 201 311 203 323 1ea1 325 1e01 328 105 62
    6 307 1e03 323 1e05 331 1e07 63 a 301 107 302 109 307 10b 30c 10d 327 e7 64 c 307 1e0b 30c
    10f 323 1e0d 327 1e11 32d 1e13 331 1e0f 65 22 300 e8 301 e9 302 ea 303 1ebd 304 113 306 115
    307 117 308 eb 309 1ebb 30c 11b 30f 205 311 207 323 1eb9 327 229 328 119 32d 1e19 330 1e1b
    66 2 307 1e1f 67 e 301 1f5 302 11d 304 1e21 306 11f 307 121 30c 1e7 327 123 68 10 302 125
    307 1e23 308 1e27 30c 21f 323 1e25 327 1e29 32e 1e2b 331 1e96 69 1c 300 ec 301 ed 302 ee 303
    129 304 12b 306 12d 308 ef 309 1ec9 30c 1d0 30f 209 311 20b 323 1ecb 328 12f 330 1e2d 6a 4
    302 135 30c 1f0 6b a 301 1e31 30c 1e9 323 1e33 327 137 331 1e35 6c c 301 13a 30c 13e 323
    1e37 327 13c 32d 1e3d 331 1e3b 6d 6 301 1e3f 307 1e41 323 1e43 6e 12 300 1f9 301 144 303 f1
    307 1e45 30c 148 323 1e47 327 146 32d 1e4b 331 1e49 6f 20 300 f2 301 f3 302 f4 303 f5 304
    14d 306 14f 307 22f 308 f6 309 1ecf 30b 151 30c 1d2 30f 20d 311 20f 31b 1a1 323 1ecd 328 1eb
    70 4 301 1e55 307 1e57 72 10 301 155 307 1e59 30c 159 30f 211 311 213 323 1e5b 327 157 331
    1e5f 73 e 301 15b 302 15d 307 1e61 30c 161 323 1e63 326 219 327 15f 74 10 307 1e6b 308 1e97
    30c 165 323 1e6d 326 21b 327 163 32d 1e71 331 1e6f 75 26 300 f9 301 fa 302 fb 303 169 304
    16b 306 16d 308 fc 309 1ee7 30a 16f 30b 171 30c 1d4 30f 215 311 217 31b 1b0 323 1ee5 324
    1e73 328 173 32d 1e77 330 1e75 76 4 303 1e7d 323 1e7f 77 e 300 1e81 301 1e83 302 175 307
    1e87 308 1e85 30a 1e98 323 1e89 78 4 307 1e8b 308 1e8d 79 14 300 1ef3 301 fd 302 177 303
    1ef9 304 233 307 1e8f 308 ff 309 1ef7 30a 1e99 323 1ef5 7a c 301 17a 302 1e91 307 17c 30c
    17e 323 1e93 331 1e95 a8 6 300 1fed 301 385 342 1fc1 c2 8 300 1ea6 301 1ea4 303 1eaa 309
    1ea8 c4 2 304 1de c5 2 301 1fa c6 4 301 1fc 304 1e2 c7 2 301 1e08 ca 8 300 1ec0 301 1ebe 303
    1ec4 309 1ec2 cf 2 301 1e2e d4 8 300 1ed2 301 1ed0 303 1ed6 309 1ed4 d5 6 301 1e4c 304 22c
    308 1e4e d6 2 304 22a d8 2 301 1fe dc 8 300 1db 301 1d7 304 1d5 30c 1d9 e2 8 300 1ea7 301
    1ea5 303 1eab 309 1ea9 e4 2 304 1df e5 2 301 1fb e6 4 301 1fd 304 1e3 e7 2 301 1e09 ea 8 300
    1ec1 301 1ebf 303 1ec5 309 1ec3 ef 2 301 1e2f f4 8 300 1ed3 301 1ed1 303 1ed7 309 1ed5 f5 6
    301 1e4d 304 22d 308 1e4f f6 2 304 22b f8 2 301 1ff fc 8 300 1dc 301 1d8 304 1d6 30c 1da 102
    8 300 1eb0 301 1eae 303 1eb4 309 1eb2 103 8 300 1eb1 301 1eaf 303 1eb5 309 1eb3 112 4 300
    1e14 301 1e16 113 4 300 1e15 301 1e17 14c 4 300 1e50 301 1e52 14d 4 300 1e51 301 1e53 15a 2
    307 1e64 15b 2 307 1e65 160 2 307 1e66 161 2 307 1e67 168 2 301 1e78 169 2 301 1e79 16a 2
    308 1e7a 16b 2 308 1e7b 17f 2 307 1e9b 1a0 a 300 1edc 301 1eda 303 1ee0 309 1ede 323 1ee2
    1a1 a 300 1edd 301 1edb 303 1ee1 309 1edf 323 1ee3 1af a 300 1eea 301 1ee8 303 1eee 309 1eec
    323 1ef0 1b0 a 300 1eeb 301 1ee9 303 1eef 309 1eed 323 1ef1 1b7 2 30c 1ee 1ea 2 304 1ec 1eb
    2 304 1ed 226 2 304 1e0 227 2 304 1e1 228 2 306 1e1c 229 2 306 1e1d 22e 2 304 230 22f 2 304
    231 292 2 30c 1ef 391 e 300 1fba 301 386 304 1fb9 306 1fb8 313 1f08 314 1f09 345 1fbc 395 8
    300 1fc8 301 388 313 1f18 314 1f19 397 a 300 1fca 301 389 313 1f28 314 1f29 345 1fcc 399 e
    300 1fda 301 38a 304 1fd9 306 1fd8 308 3aa 313 1f38 314 1f39 39f 8 300 1ff8 301 38c 313 1f48
    314 1f49 3a1 2 314 1fec 3a5 c 300 1fea 301 38e 304 1fe9 306 1fe8 308 3ab 314 1f59 3a9 a 300
    1ffa 301 38f 313 1f68 314 1f69 345 1ffc 3ac 2 345 1fb4 3ae 2 345 1fc4 3b1 10 300 1f70 301
    3ac 304 1fb1 306 1fb0 313 1f00 314 1f01 342 1fb6 345 1fb3 3b5 8 300 1f72 301 3ad 313 1f10
    314 1f11 3b7 c 300 1f74 301 3ae 313 1f20 314 1f21 342 1fc6 345 1fc3 3b9 10 300 1f76 301 3af
    304 1fd1 306 1fd0 308 3ca 313 1f30 314 1f31 342 1fd6 3bf 8 300 1f78 301 3cc 313 1f40 314
    1f41 3c1 4 313 1fe4 314 1fe5 3c5 10 300 1f7a 301 3cd 304 1fe1 306 1fe0 308 3cb 313 1f50 314
    1f51 342 1fe6 3c9 c 300 1f7c 301 3ce 313 1f60 314 1f61 342 1ff6 345 1ff3 3ca 6 300 1fd2 301
    390 342 1fd7 3cb 6 300 1fe2 301 3b0 342 1fe7 3ce 2 345 1ff4 3d2 4 301 3d3 308 3d4 406 2 308
    407 410 4 306 4d0 308 4d2 413 2 301 403 415 6 300 400 306 4d6 308 401 416 4 306 4c1 308 4dc
    417 2 308 4de 418 8 300 40d 304 4e2 306 419 308 4e4 41a 2 301 40c 41e 2 308 4e6 423 8 304
    4ee 306 40e 308 4f0 30b 4f2 427 2 308 4f4 42b 2 308 4f8 42d 2 308 4ec 430 4 306 4d1 308 4d3
    433 2 301 453 435 6 300 450 306 4d7 308 451 436 4 306 4c2 308 4dd 437 2 308 4df 438 8 300
    45d 304 4e3 306 439 308 4e5 43a 2 301 45c 43e 2 308 4e7 443 8 304 4ef 306 45e 308 4f1 30b
    4f3 447 2 308 4f5 44b 2 308 4f9 44d 2 308 4ed 456 2 308 457 474 2 30f 476 475 2 30f 477 4d8
    2 308 4da 4d9 2 308 4db 4e8 2 308 4ea 4e9 2 308 4eb 627 6 653 622 654 623 655 625 648 2 654
    624 64a 2 654 626 6c1 2 654 6c2 6d2 2 654 6d3 6d5 2 654 6c0 928 2 93c 929 930 2 93c 931 933
    2 93c 934 9c7 4 9be 9cb 9d7 9cc b47 6 b3e b4b b56 b48 b57 b4c b92 2 bd7 b94 bc6 4 bbe bca
    bd7 bcc bc7 2 bbe bcb c46 2 c56 c48 cbf 2 cd5 cc0 cc6 6 cc2 cca cd5 cc7 cd6 cc8 cca 2 cd5
    ccb d46 4 d3e d4a d57 d4c d47 2 d3e d4b dd9 6 dca dda dcf ddc ddf dde ddc 2 dca ddd 1025 2
    102e 1026 1b05 2 1b35 1b06 1b07 2 1b35 1b08 1b09 2 1b35 1b0a 1b0b 2 1b35 1b0c 1b0d 2 1b35
    1b0e 1b11 2 1b35 1b12 1b3a 2 1b35 1b3b 1b3c 2 1b35 1b3d 1b3e 2 1b35 1b40 1b3f 2 1b35 1b41
    1b42 2 1b35 1b43 1e36 2 304 1e38 1e37 2 304 1e39 1e5a 2 304 1e5c 1e5b 2 304 1e5d 1e62 2 307
    1e68 1e63 2 307 1e69 1ea0 4 302 1eac 306 1eb6 1ea1 4 302 1ead 306 1eb7 1eb8 2 302 1ec6 1eb9
    2 302 1ec7 1ecc 2 302 1ed8 1ecd 2 302 1ed9 1f00 8 300 1f02 301 1f04 342 1f06 345 1f80 1f01 8
    300 1f03 301 1f05 342 1f07 345 1f81 1f02 2 345 1f82 1f03 2 345 1f83 1f04 2 345 1f84 1f05 2
    345 1f85 1f06 2 345 1f86 1f07 2 345 1f87 1f08 8 300 1f0a 301 1f0c 342 1f0e 345 1f88 1f09 8
    300 1f0b 301 1f0d 342 1f0f 345 1f89 1f0a 2 345 1f8a 1f0b 2 345 1f8b 1f0c 2 345 1f8c 1f0d 2
    345 1f8d 1f0e 2 345 1f8e 1f0f 2 345 1f8f 1f10 4 300 1f12 301 1f14 1f11 4 300 1f13 301 1f15
    1f18 4 300 1f1a 301 1f1c 1f19 4 300 1f1b 301 1f1d 1f20 8 300 1f22 301 1f24 342 1f26 345 1f90
    1f21 8 300 1f23 301 1f25 342 1f27 345 1f91 1f22 2 345 1f92 1f23 2 345 1f93 1f24 2 345 1f94
    1f25 2 345 1f95 1f26 2 345 1f96 1f27 2 345 1f97 1f28 8 300 1f2a 301 1f2c 342 1f2e 345 1f98
    1f29 8 300 1f2b 301 1f2d 342 1f2f 345 1f99 1f2a 2 345 1f9a 1f2b 2 345 1f9b 1f2c 2 345 1f9c
    1f2d 2 345 1f9d 1f2e 2 345 1f9e 1f2f 2 345 1f9f 1f30 6 300 1f32 301 1f34 342 1f36 1f31 6 300
    1f33 301 1f35 342 1f37 1f38 6 300 1f3a 301 1f3c 342 1f3e 1f39 6 300 1f3b 301 1f3d 342 1f3f
    1f40 4 300 1f42 301 1f44 1f41 4 300 1f43 301 1f45 1f48 4 300 1f4a 301 1f4c 1f49 4 300 1f4b
    301 1f4d 1f50 6 300 1f52 301 1f54 342 1f56 1f51 6 300 1f53 301 1f55 342 1f57 1f59 6 300 1f5b
    301 1f5d 342 1f5f 1f60 8 300 1f62 301 1f64 342 1f66 345 1fa0 1f61 8 300 1f63 301 1f65 342
    1f67 345 1fa1 1f62 2 345 1fa2 1f63 2 345 1fa3 1f64 2 345 1fa4 1f65 2 345 1fa5 1f66 2 345
    1fa6 1f67 2 345 1fa7 1f68 8 300 1f6a 301 1f6c 342 1f6e 345 1fa8 1f69 8 300 1f6b 301 1f6d 342
    1f6f 345 1fa9 1f6a 2 345 1faa 1f6b 2 345 1fab 1f6c 2 345 1fac 1f6d 2 345 1fad 1f6e 2 345
    1fae 1f6f 2 345 1faf 1f70 2 345 1fb2 1f74 2 345 1fc2 1f7c 2 345 1ff2 1fb6 2 345 1fb7 1fbf 6
    300 1fcd 301 1fce 342 1fcf 1fc6 2 345 1fc7 1ff6 2 345 1ff7 1ffe 6 300 1fdd 301 1fde 342 1fdf
    2190 2 338 219a 2192 2 338 219b 2194 2 338 21ae 21d0 2 338 21cd 21d2 2 338 21cf 21d4 2 338
    21ce 2203 2 338 2204 2208 2 338 2209 220b 2 338 220c 2223 2 338 2224 2225 2 338 2226 223c 2
    338 2241 2243 2 338 2244 2245 2 338 2247 2248 2 338 2249 224d 2 338 226d 2261 2 338 2262
    2264 2 338 2270 2265 2 338 2271 2272 2 338 2274 2273 2 338 2275 2276 2 338 2278 2277 2 338
    2279 227a 2 338 2280 227b 2 338 2281 227c 2 338 22e0 227d 2 338 22e1 2282 2 338 2284 2283 2
    338 2285 2286 2 338 2288 2287 2 338 2289 2291 2 338 22e2 2292 2 338 22e3 22a2 2 338 22ac
    22a8 2 338 22ad 22a9 2 338 22ae 22ab 2 338 22af 22b2 2 338 22ea 22b3 2 338 22eb 22b4 2 338
    22ec 22b5 2 338 22ed 3046 2 3099 3094 304b 2 3099 304c 304d 2 3099 304e 304f 2 3099 3050
    3051 2 3099 3052 3053 2 3099 3054 3055 2 3099 3056 3057 2 3099 3058 3059 2 3099 305a 305b 2
    3099 305c 305d 2 3099 305e 305f 2 3099 3060 3061 2 3099 3062 3064 2 3099 3065 3066 2 3099
    3067 3068 2 3099 3069 306f 4 3099 3070 309a 3071 3072 4 3099 3073 309a 3074 3075 4 3099 3076
    309a 3077 3078 4 3099 3079 309a 307a 307b 4 3099 307c 309a 307d 309d 2 3099 309e 30a6 2 3099
    30f4 30ab 2 3099 30ac 30ad 2 3099 30ae 30af 2 3099 30b0 30b1 2 3099 30b2 30b3 2 3099 30b4
    30b5 2 3099 30b6 30b7 2 3099 30b8 30b9 2 3099 30ba 30bb 2 3099 30bc 30bd 2 3099 30be 30bf 2
    3099 30c0 30c1 2 3099 30c2 30c4 2 3099 30c5 30c6 2 3099 30c7 30c8 2 3099 30c9 30cf 4 3099
    30d0 309a 30d1 30d2 4 3099 30d3 309a 30d4 30d5 4 3099 30d6 309a 30d7 30d8 4 3099 30d9 309a
    30da 30db 4 3099 30dc 309a 30dd 30ef 2 3099 30f7 30f0 2 3099 30f8 30f1 2 3099 30f9 30f2 2
    3099 30fa 30fd 2 3099 30fe 11099 2 110ba 1109a 1109b 2 110ba 1109c 110a5 2 110ba 110ab 11131
    2 11127 1112e 11132 2 11127 1112f 11347 4 1133e 1134b 11357 1134c 114b9 6 114b0 114bc 114ba
    114bb 114bd 114be 115b8 2 115af 115ba 115b9 2 115af 115bb 11935 2 11930 11938"

/-- Reads the ranges of marks; `last` is the start of the range before. -/
def readMarkRanges (last : Nat) : List Nat → List (Nat × Nat × Nat)
  | gap :: len :: cls :: rest =>
    (last + gap, last + gap + len, cls) :: readMarkRanges (last + gap) rest
  | _ => []

/-- The ranges of combining marks, each with the class of its marks. -/
def markRanges : List (Nat × Nat × Nat) :=
  readMarkRanges 0 (hexNumbers markClassText)

/-- The class of a combining mark, and zero for every other character. -/
def markClass (c : Char) : Nat :=
  if c.toNat < 0x300 then 0
  else
    match markRanges.find? fun r => r.1 ≤ c.toNat && c.toNat ≤ r.2.1 with
    | some r => r.2.2
    | none => 0

/-- The parts of a character. -/
def charParts (c : Char) : List Char :=
  let n := c.toNat
  if 0xAC00 ≤ n ∧ n ≤ 0xD7A3 then
    let s := n - 0xAC00
    let head := [Char.ofNat (0x1100 + s / 588), Char.ofNat (0x1161 + s % 588 / 28)]
    if s % 28 == 0 then head else head ++ [Char.ofNat (0x11A7 + s % 28)]
  else (partsMap.image? c).getD [c]

/-- Puts a mark into a run of marks, after those of its class or a lower one. -/
def insertMark (c : Char) : List Char → List Char
  | [] => [c]
  | d :: rest => if markClass c < markClass d then c :: d :: rest else d :: insertMark c rest

/-- Orders each run of marks by class; `run` holds the marks since the last character of class
zero, in order. -/
def orderMarks (run : List Char) : List Char → List Char
  | [] => run
  | c :: rest =>
    if markClass c == 0 then run ++ c :: orderMarks [] rest
    else orderMarks (insertMark c run) rest

/-- The character that two characters compose to. -/
def compositeOf (a b : Char) : Option Char :=
  let m := a.toNat
  let n := b.toNat
  if 0x1100 ≤ m ∧ m < 0x1113 ∧ 0x1161 ≤ n ∧ n < 0x1176 then
    some (Char.ofNat (0xAC00 + ((m - 0x1100) * 21 + (n - 0x1161)) * 28))
  else if 0xAC00 ≤ m ∧ m ≤ 0xD7A3 ∧ (m - 0xAC00) % 28 = 0 ∧ 0x11A8 ≤ n ∧ n < 0x11C3 then
    some (Char.ofNat (m + (n - 0x11A7)))
  else
    let rec pick : List Char → Option Char
      | second :: whole :: rest => if second == b then some whole else pick rest
      | _ => none
    pick ((compositeMap.image? a).getD [])

/-- Composes: `starter` is the last character of class zero, `marks` (backwards) what follows it
uncomposed, and `last` the class of the last of these. -/
def composeFrom (starter : Char) (marks : List Char) (last : Nat) : List Char → List Char
  | [] => starter :: marks.reverse
  | c :: rest =>
    let cls := markClass c
    let joined := if marks.isEmpty || last < cls then compositeOf starter c else none
    match joined with
    | some whole => composeFrom whole marks last rest
    | none =>
      if cls == 0 then starter :: marks.reverse ++ composeFrom c [] 0 rest
      else composeFrom starter (c :: marks) cls rest

/-- The composed form of a text. -/
def composedText (s : String) : String :=
  if s.toList.all fun c => c.toNat < 128 then s
  else
    match orderMarks [] (s.toList.flatMap charParts) with
    | [] => ""
    | c :: rest => String.ofList (composeFrom c [] 0 rest)

end HandlerBundle
