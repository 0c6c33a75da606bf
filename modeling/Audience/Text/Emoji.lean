import Audience.Text.Table

/-!
# Pictures in a text

Small pictures, the characters that they are made from, and ideographs.
-/

namespace Audience.Text

/-- The property `Emoji`: characters that may be drawn as a picture. -/
def emojiTable : Table Bool := .ofSteps "
  23 24 2A 2B 30 3A A9 AA AE AF 203C 203D 2049 204A 2122 2123 2139 213A 2194 219A 21A9 21AB 231A
  231C 2328 2329 23CF 23D0 23E9 23F4 23F8 23FB 24C2 24C3 25AA 25AC 25B6 25B7 25C0 25C1 25FB 25FF
  2600 2605 260E 260F 2611 2612 2614 2616 2618 2619 261D 261E 2620 2621 2622 2624 2626 2627 262A
  262B 262E 2630 2638 263B 2640 2641 2642 2643 2648 2654 265F 2661 2663 2664 2665 2667 2668 2669
  267B 267C 267E 2680 2692 2698 2699 269A 269B 269D 26A0 26A2 26A7 26A8 26AA 26AC 26B0 26B2 26BD
  26BF 26C4 26C6 26C8 26C9 26CE 26D0 26D1 26D2 26D3 26D5 26E9 26EB 26F0 26F6 26F7 26FB 26FD 26FE
  2702 2703 2705 2706 2708 270E 270F 2710 2712 2713 2714 2715 2716 2717 271D 271E 2721 2722 2728
  2729 2733 2735 2744 2745 2747 2748 274C 274D 274E 274F 2753 2756 2757 2758 2763 2765 2795 2798
  27A1 27A2 27B0 27B1 27BF 27C0 2934 2936 2B05 2B08 2B1B 2B1D 2B50 2B51 2B55 2B56 3030 3031 303D
  303E 3297 3298 3299 329A 1F004 1F005 1F0CF 1F0D0 1F170 1F172 1F17E 1F180 1F18E 1F18F 1F191
  1F19B 1F1E6 1F200 1F201 1F203 1F21A 1F21B 1F22F 1F230 1F232 1F23B 1F250 1F252 1F300 1F322 1F324
  1F394 1F396 1F398 1F399 1F39C 1F39E 1F3F1 1F3F3 1F3F6 1F3F7 1F4FE 1F4FF 1F53E 1F549 1F54F 1F550
  1F568 1F56F 1F571 1F573 1F57B 1F587 1F588 1F58A 1F58E 1F590 1F591 1F595 1F597 1F5A4 1F5A6 1F5A8
  1F5A9 1F5B1 1F5B3 1F5BC 1F5BD 1F5C2 1F5C5 1F5D1 1F5D4 1F5DC 1F5DF 1F5E1 1F5E2 1F5E3 1F5E4 1F5E8
  1F5E9 1F5EF 1F5F0 1F5F3 1F5F4 1F5FA 1F650 1F680 1F6C6 1F6CB 1F6D3 1F6D5 1F6D8 1F6DC 1F6E6 1F6E9
  1F6EA 1F6EB 1F6ED 1F6F0 1F6F1 1F6F3 1F6FD 1F7E0 1F7EC 1F7F0 1F7F1 1F90C 1F93B 1F93C 1F946 1F947
  1FA00 1FA70 1FA7D 1FA80 1FA8A 1FA8F 1FAC7 1FACE 1FADD 1FADF 1FAEA 1FAF0 1FAF9"

/-- The property `Emoji_Presentation`: characters drawn as a picture by default. -/
def emojiPresentationTable : Table Bool := .ofSteps "
  231A 231C 23E9 23ED 23F0 23F1 23F3 23F4 25FD 25FF 2614 2616 2648 2654 267F 2680 2693 2694 26A1
  26A2 26AA 26AC 26BD 26BF 26C4 26C6 26CE 26CF 26D4 26D5 26EA 26EB 26F2 26F4 26F5 26F6 26FA 26FB
  26FD 26FE 2705 2706 270A 270C 2728 2729 274C 274D 274E 274F 2753 2756 2757 2758 2795 2798 27B0
  27B1 27BF 27C0 2B1B 2B1D 2B50 2B51 2B55 2B56 1F004 1F005 1F0CF 1F0D0 1F18E 1F18F 1F191 1F19B
  1F1E6 1F200 1F201 1F202 1F21A 1F21B 1F22F 1F230 1F232 1F237 1F238 1F23B 1F250 1F252 1F300 1F321
  1F32D 1F336 1F337 1F37D 1F37E 1F394 1F3A0 1F3CB 1F3CF 1F3D4 1F3E0 1F3F1 1F3F4 1F3F5 1F3F8 1F43F
  1F440 1F441 1F442 1F4FD 1F4FF 1F53E 1F54B 1F54F 1F550 1F568 1F57A 1F57B 1F595 1F597 1F5A4 1F5A5
  1F5FB 1F650 1F680 1F6C6 1F6CC 1F6CD 1F6D0 1F6D3 1F6D5 1F6D8 1F6DC 1F6E0 1F6EB 1F6ED 1F6F4 1F6FD
  1F7E0 1F7EC 1F7F0 1F7F1 1F90C 1F93B 1F93C 1F946 1F947 1FA00 1FA70 1FA7D 1FA80 1FA8A 1FA8F 1FAC7
  1FACE 1FADD 1FADF 1FAEA 1FAF0 1FAF9"

/-- The property `Emoji_Modifier`: shades of skin. -/
def emojiModifierTable : Table Bool := .ofSteps "
  1F3FB 1F400"

/-- The property `Emoji_Modifier_Base`: pictures that take a shade of skin. -/
def emojiModifierBaseTable : Table Bool := .ofSteps "
  261D 261E 26F9 26FA 270A 270E 1F385 1F386 1F3C2 1F3C5 1F3C7 1F3C8 1F3CA 1F3CD 1F442 1F444 1F446
  1F451 1F466 1F479 1F47C 1F47D 1F481 1F484 1F485 1F488 1F48F 1F490 1F491 1F492 1F4AA 1F4AB 1F574
  1F576 1F57A 1F57B 1F590 1F591 1F595 1F597 1F645 1F648 1F64B 1F650 1F6A3 1F6A4 1F6B4 1F6B7 1F6C0
  1F6C1 1F6CC 1F6CD 1F90C 1F90D 1F90F 1F910 1F918 1F920 1F926 1F927 1F930 1F93A 1F93C 1F93F 1F977
  1F978 1F9B5 1F9B7 1F9B8 1F9BA 1F9BB 1F9BC 1F9CD 1F9D0 1F9D1 1F9DE 1FAC3 1FAC6 1FAF0 1FAF9"

/-- The property `Emoji_Component`: parts of composed pictures. -/
def emojiComponentTable : Table Bool := .ofSteps "
  23 24 2A 2B 30 3A 200D 200E 20E3 20E4 FE0F FE10 1F1E6 1F200 1F3FB 1F400 1F9B0 1F9B4 E0020 E0080"

/-- The property `Extended_Pictographic`: pictures, and places kept for more. -/
def extendedPictographicTable : Table Bool := .ofSteps "
  A9 AA AE AF 203C 203D 2049 204A 2122 2123 2139 213A 2194 219A 21A9 21AB 231A 231C 2328 2329
  2388 2389 23CF 23D0 23E9 23F4 23F8 23FB 24C2 24C3 25AA 25AC 25B6 25B7 25C0 25C1 25FB 25FF 2600
  2606 2607 2613 2614 2686 2690 2706 2708 2713 2714 2715 2716 2717 271D 271E 2721 2722 2728 2729
  2733 2735 2744 2745 2747 2748 274C 274D 274E 274F 2753 2756 2757 2758 2763 2768 2795 2798 27A1
  27A2 27B0 27B1 27BF 27C0 2934 2936 2B05 2B08 2B1B 2B1D 2B50 2B51 2B55 2B56 3030 3031 303D 303E
  3297 3298 3299 329A 1F000 1F100 1F10D 1F110 1F12F 1F130 1F16C 1F172 1F17E 1F180 1F18E 1F18F
  1F191 1F19B 1F1AD 1F1E6 1F201 1F210 1F21A 1F21B 1F22F 1F230 1F232 1F23B 1F23C 1F240 1F249 1F3FB
  1F400 1F53E 1F546 1F650 1F680 1F700 1F774 1F780 1F7D5 1F800 1F80C 1F810 1F848 1F850 1F85A 1F860
  1F888 1F890 1F8AE 1F900 1F90C 1F93B 1F93C 1F946 1F947 1FB00 1FC00 1FFFE"

/-- The property `Regional_Indicator`: letters that make up flags. -/
def regionalIndicatorTable : Table Bool := .ofSteps "
  1F1E6 1F200"

/-- The property `Ideographic`: ideographs. -/
def ideographicTable : Table Bool := .ofSteps "
  3006 3008 3021 302A 3038 303B 3400 4DC0 4E00 A000 F900 FA6E FA70 FADA 16FE4 16FE5 17000 187F8
  18800 18CD6 18CFF 18D09 1B170 1B2FC 20000 2A6E0 2A700 2B73A 2B740 2B81E 2B820 2CEA2 2CEB0 2EBE1
  2EBF0 2EE5E 2F800 2FA1E 30000 3134B 31350 323B0"

/-- The property `Unified_Ideograph`: Han ideographs. -/
def unifiedIdeographTable : Table Bool := .ofSteps "
  3400 4DC0 4E00 A000 FA0E FA10 FA11 FA12 FA13 FA15 FA1F FA20 FA21 FA22 FA23 FA25 FA27 FA2A 20000
  2A6E0 2A700 2B73A 2B740 2B81E 2B820 2CEA2 2CEB0 2EBE1 2EBF0 2EE5E 30000 3134B 31350 323B0"

/-- The property `Radical`: radicals of ideographs. -/
def radicalTable : Table Bool := .ofSteps "
  2E80 2E9A 2E9B 2EF4 2F00 2FD6"

/-- The property `IDS_Unary_Operator`: signs that describe an ideograph by one part. -/
def idsUnaryOperatorTable : Table Bool := .ofSteps "
  2FFE 3000"

/-- The property `IDS_Binary_Operator`: signs that describe an ideograph by two parts. -/
def idsBinaryOperatorTable : Table Bool := .ofSteps "
  2FF0 2FF2 2FF4 2FFE 31EF 31F0"

/-- The property `IDS_Trinary_Operator`: signs that describe an ideograph by three parts. -/
def idsTrinaryOperatorTable : Table Bool := .ofSteps "
  2FF2 2FF4"

end Audience.Text
