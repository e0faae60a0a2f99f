import BoardBench.Text.Blank
import BoardBench.Text.Category

namespace BoardBench.Text

open CodeSet

def whiteSpace : CodeSet := ofList blankRanges

def asciiHexDigits : CodeSet := ofRows ["30-39 41-46 61-66"]

def hexDigits : CodeSet := ofRows ["30-39 41-46 61-66 FF10-FF19 FF21-FF26 FF41-FF46"]

def otherDashes : CodeSet := ofRows ["2053 207B 208B 2212"]

def dashes : CodeSet := dashPunctuation.union otherDashes

def hyphens : CodeSet := ofRows ["2D AD 58A 1806 2010-2011 2E17 30FB FE63 FF0D FF65"]

def quotationMarks : CodeSet := ofRows
  ["22 27 AB BB 2018-201F 2039-203A 2E42 300C-300F 301D-301F FE41-FE44 FF02 FF07 FF62-FF63"]

def sentenceTerminals : CodeSet := ofRows
  ["21 2E 3F 589 61D-61F 6D4 700-702 7F9 837 839 83D-83E 964-965 104A-104B 1362 1367-1368",
   "166E 1735-1736 17D4-17D5 1803 1809 1944-1945 1AA8-1AAB 1B4E-1B4F 1B5A-1B5B 1B5E-1B5F",
   "1B7D-1B7F 1C3B-1C3C 1C7E-1C7F 2024 203C-203D 2047-2049 2CF9-2CFB 2E2E 2E3C 2E53-2E54 3002",
   "A4FF A60E-A60F A6F3 A6F7 A876-A877 A8CE-A8CF A92F A9C8-A9C9 AA5D-AA5F AAF0-AAF1 ABEB FE12",
   "FE15-FE16 FE52 FE56-FE57 FF01 FF0E FF1F FF61 10A56-10A57 10F55-10F59 10F86-10F89",
   "11047-11048 110BE-110C1 11141-11143 111C5-111C6 111CD 111DE-111DF 11238-11239 1123B-1123C",
   "112A9 113D4-113D5 1144B-1144C 115C2-115C3 115C9-115D7 11641-11642 1173C-1173E 11944 11946",
   "11A42-11A43 11A9B-11A9C 11C41-11C42 11EF7-11EF8 11F43-11F44 16A6E-16A6F 16AF5 16B37-16B38",
   "16B44 16D6E-16D6F 16E98 1BC9F 1DA88"]

def innerTerminals : CodeSet := ofRows
  ["2C 3A-3B 37E 387 5C3 60C 61B 703-70A 70C 7F8 830-835 838 83A-83C 85E E5A-E5B F08 F0D-F12",
   "1361 1363-1366 16EB-16ED 17D6 17DA 1802 1804-1805 1808 1B5D 1C3D-1C3F 2E41 2E4C 2E4E-2E4F",
   "3001 A4FE A60D A6F4-A6F6 A9C7 AADF FE50-FE51 FE54-FE55 FF0C FF1A-FF1B FF64 1039F 103D0",
   "10857 1091F 10AF0-10AF5 10B3A-10B3F 10B99-10B9C 11049-1104D 1123A 1144D 1145A-1145B",
   "115C4-115C5 11AA1-11AA2 11C43 11C71 12470-12474 16B39 16E97 1DA87 1DA89-1DA8A"]

def terminalPunctuation : CodeSet := sentenceTerminals.union innerTerminals

def unmirroredPunctuation : CodeSet := ofRows
  ["2018-201F 2E42 301D-301F FD3E-FD3F FE17-FE18 FE35-FE44 FE47-FE48"]

def mirroredSymbols : CodeSet := ofRows
  ["3C 3E 2140 2201-2204 2208-220D 2211 2215-2216 221A-221D 221F-2222 2224 2226 222B-2233",
   "2239 223B-224C 2252-2255 225F-2260 2262 2264-226B 226D-228C 228F-2292 2298 22A2-22A3",
   "22A6-22B8 22BE-22BF 22C9-22CD 22D0-22D1 22D6-22ED 22F0-22FF 2320-2321 27C0 27C3-27C4",
   "27C8-27C9 27CB-27CD 27D3-27D6 27DC-27DE 27E2-27E5 299B-29A0 29A2-29AF 29B8 29C0-29C5 29C9",
   "29CE-29D2 29D4-29D5 29DC 29E1 29E3-29E5 29E8-29E9 29F4-29F9 2A0A-2A1C 2A1E-2A21 2A24 2A26",
   "2A29 2A2B-2A2E 2A34-2A35 2A3C-2A3E 2A57-2A58 2A64-2A65 2A6A-2A6D 2A6F-2A70 2A73-2A74",
   "2A79-2AA3 2AA6-2AAD 2AAF-2AD6 2ADC 2ADE 2AE2-2AE6 2AEC-2AEE 2AF3 2AF7-2AFB 2AFD 2BFE",
   "FE64-FE65 FF1C FF1E 1D6DB 1D715 1D74F 1D789 1D7C3"]

def bidiMirrored : CodeSet :=
  ((unions [openPunctuation, closePunctuation, initialPunctuation, finalPunctuation]).diff
    unmirroredPunctuation).union mirroredSymbols

def otherMath : CodeSet := ofRows
  ["5E 3D0-3D2 3D5 3F0-3F1 3F4-3F5 2016 2032-2034 2040 2061-2064 207D-207E 208D-208E",
   "20D0-20DC 20E1 20E5-20E6 20EB-20EF 2102 2107 210A-2113 2115 2119-211D 2124 2128-2129",
   "212C-212D 212F-2131 2133-2138 213C-213F 2145-2149 2195-2199 219C-219F 21A1-21A2 21A4-21A5",
   "21A7 21A9-21AD 21B0-21B1 21B6-21B7 21BC-21CD 21D0-21D1 21D3 21D5-21DB 21DD 21E4-21E5",
   "2308-230B 23B4-23B5 23B7 23D0 23E2 25A0-25A1 25AE-25B6 25BC-25C0 25C6-25C7 25CA-25CB",
   "25CF-25D3 25E2 25E4 25E7-25EC 2605-2606 2640 2642 2660-2663 266D-266E 27C5-27C6 27E6-27EF",
   "2983-2998 29D8-29DB 29FC-29FD FE61 FE63 FE68 FF3C FF3E 1D400-1D454 1D456-1D49C",
   "1D49E-1D49F 1D4A2 1D4A5-1D4A6 1D4A9-1D4AC 1D4AE-1D4B9 1D4BB 1D4BD-1D4C3 1D4C5-1D505",
   "1D507-1D50A 1D50D-1D514 1D516-1D51C 1D51E-1D539 1D53B-1D53E 1D540-1D544 1D546 1D54A-1D550",
   "1D552-1D6A5 1D6A8-1D6C0 1D6C2-1D6DA 1D6DC-1D6FA 1D6FC-1D714 1D716-1D734 1D736-1D74E",
   "1D750-1D76E 1D770-1D788 1D78A-1D7A8 1D7AA-1D7C2 1D7C4-1D7CB 1D7CE-1D7FF 1EE00-1EE03",
   "1EE05-1EE1F 1EE21-1EE22 1EE24 1EE27 1EE29-1EE32 1EE34-1EE37 1EE39 1EE3B 1EE42",
   "1EE47-1EE4B/2 1EE4D-1EE4F 1EE51-1EE52 1EE54 1EE57-1EE5F/2 1EE61-1EE62 1EE64 1EE67-1EE6A",
   "1EE6C-1EE72 1EE74-1EE77 1EE79-1EE7C 1EE7E 1EE80-1EE89 1EE8B-1EE9B 1EEA1-1EEA3 1EEA5-1EEA9",
   "1EEAB-1EEBB"]

def math : CodeSet := mathSymbols.union otherMath

def patternSyntax : CodeSet := ofRows
  ["21-2F 3A-40 5B-5E 60 7B-7E A1-A7 A9 AB-AC AE B0-B1 B6 BB BF D7 F7 2010-2027 2030-203E",
   "2041-2053 2055-205E 2190-245F 2500-2775 2794-2BFF 2E00-2E7F 3001-3003 3008-3020 3030",
   "FD3E-FD3F FE45-FE46"]

def patternWhiteSpace : CodeSet := ofRows ["9-D 20 85 200E-200F 2028-2029"]

def ideographicUnaryOperators : CodeSet := ofRows ["2FFE-2FFF"]

def ideographicBinaryOperators : CodeSet := ofRows ["2FF0-2FF1 2FF4-2FFD 31EF"]

def ideographicTrinaryOperators : CodeSet := ofRows ["2FF2-2FF3"]

def emojiPresentation : CodeSet := ofRows
  ["231A-231B 23E9-23EC 23F0 23F3 25FD-25FE 2614-2615 2648-2653 267F 2693 26A1 26AA-26AB",
   "26BD-26BE 26C4-26C5 26CE 26D4 26EA 26F2-26F3 26F5 26FA 26FD 2705 270A-270B 2728 274C 274E",
   "2753-2755 2757 2795-2797 27B0 27BF 2B1B-2B1C 2B50 2B55 1F004 1F0CF 1F18E 1F191-1F19A",
   "1F1E6-1F1FF 1F201 1F21A 1F22F 1F232-1F236 1F238-1F23A 1F250-1F251 1F300-1F320 1F32D-1F335",
   "1F337-1F37C 1F37E-1F393 1F3A0-1F3CA 1F3CF-1F3D3 1F3E0-1F3F0 1F3F4 1F3F8-1F43E 1F440",
   "1F442-1F4FC 1F4FF-1F53D 1F54B-1F54E 1F550-1F567 1F57A 1F595-1F596 1F5A4 1F5FB-1F64F",
   "1F680-1F6C5 1F6CC 1F6D0-1F6D2 1F6D5-1F6D7 1F6DC-1F6DF 1F6EB-1F6EC 1F6F4-1F6FC 1F7E0-1F7EB",
   "1F7F0 1F90C-1F93A 1F93C-1F945 1F947-1F9FF 1FA70-1FA7C 1FA80-1FA89 1FA8F-1FAC6 1FACE-1FADC",
   "1FADF-1FAE9 1FAF0-1FAF8"]

def textEmoji : CodeSet := ofRows
  ["23 2A 30-39 A9 AE 203C 2049 2122 2139 2194-2199 21A9-21AA 2328 23CF 23ED-23EF 23F1-23F2",
   "23F8-23FA 24C2 25AA-25AB 25B6 25C0 25FB-25FC 2600-2604 260E 2611 2618 261D 2620 2622-2623",
   "2626 262A 262E-262F 2638-263A 2640 2642 265F-2660 2663 2665-2666 2668 267B 267E 2692",
   "2694-2697 2699 269B-269C 26A0 26A7 26B0-26B1 26C8 26CF-26D3/2 26E9 26F0-26F1 26F4",
   "26F7-26F9 2702 2708-2709 270C-270D 270F 2712-2716/2 271D 2721 2733-2734 2744 2747",
   "2763-2764 27A1 2934-2935 2B05-2B07 3030 303D 3297 3299 1F170-1F171 1F17E-1F17F 1F202",
   "1F237 1F321 1F324-1F32C 1F336 1F37D 1F396-1F397 1F399-1F39B 1F39E-1F39F 1F3CB-1F3CE",
   "1F3D4-1F3DF 1F3F3-1F3F7/2 1F43F 1F441 1F4FD 1F549-1F54A 1F56F-1F570 1F573-1F579 1F587",
   "1F58A-1F58D 1F590 1F5A5 1F5A8 1F5B1-1F5B2 1F5BC 1F5C2-1F5C4 1F5D1-1F5D3 1F5DC-1F5DE 1F5E1",
   "1F5E3 1F5E8 1F5EF 1F5F3 1F5FA 1F6CB 1F6CD-1F6CF 1F6E0-1F6E5 1F6E9 1F6F0 1F6F3"]

def emoji : CodeSet := emojiPresentation.union textEmoji

def emojiModifiers : CodeSet := ofRows ["1F3FB-1F3FF"]

def emojiModifierBases : CodeSet := ofRows
  ["261D 26F9 270A-270D 1F385 1F3C2-1F3C4 1F3C7 1F3CA-1F3CC 1F442-1F443 1F446-1F450",
   "1F466-1F478 1F47C 1F481-1F483 1F485-1F487 1F48F 1F491 1F4AA 1F574-1F575 1F57A 1F590",
   "1F595-1F596 1F645-1F647 1F64B-1F64F 1F6A3 1F6B4-1F6B6 1F6C0 1F6CC 1F90C 1F90F 1F918-1F91F",
   "1F926 1F930-1F939 1F93C-1F93E 1F977 1F9B5-1F9B6 1F9B8-1F9B9 1F9BB 1F9CD-1F9CF 1F9D1-1F9DD",
   "1FAC3-1FAC5 1FAF0-1FAF8"]

def emojiComponents : CodeSet := ofRows
  ["23 2A 30-39 200D 20E3 FE0F 1F1E6-1F1FF 1F3FB-1F3FF 1F9B0-1F9B3 E0020-E007F"]

def regionalIndicators : CodeSet := ofRows ["1F1E6-1F1FF"]

def unpictographicEmoji : CodeSet := ofRows ["23 2A 30-39 1F1E6-1F1FF 1F3FB-1F3FF"]

def otherPictographs : CodeSet := ofRows
  ["2388 2605 2607-260D 260F-2610 2612 2616-2617 2619-261C 261E-261F 2621 2624-2625 2627-2629",
   "262B-262D 2630-2637 263B-263F 2641 2643-2647 2654-265E 2661-2662 2664 2667 2669-267A",
   "267C-267D 2680-2685 2690-2691 2698 269A 269D-269F 26A2-26A6 26A8-26A9 26AC-26AF 26B2-26BC",
   "26BF-26C3 26C6-26C7 26C9-26CD 26D0 26D2 26D5-26E8 26EB-26EF 26F6 26FB-26FC 26FE-2701",
   "2703-2704 270E 2710-2711 2765-2767 1F000-1F003 1F005-1F0CE 1F0D0-1F0FF 1F10D-1F10F 1F12F",
   "1F16C-1F16F 1F1AD-1F1E5 1F203-1F20F 1F23C-1F23F 1F249-1F24F 1F252-1F2FF 1F322-1F323",
   "1F394-1F395 1F398 1F39C-1F39D 1F3F1-1F3F2 1F3F6 1F4FE 1F546-1F548 1F54F 1F568-1F56E",
   "1F571-1F572 1F57B-1F586 1F588-1F589 1F58E-1F58F 1F591-1F594 1F597-1F5A3 1F5A6-1F5A7",
   "1F5A9-1F5B0 1F5B3-1F5BB 1F5BD-1F5C1 1F5C5-1F5D0 1F5D4-1F5DB 1F5DF-1F5E0 1F5E2 1F5E4-1F5E7",
   "1F5E9-1F5EE 1F5F0-1F5F2 1F5F4-1F5F9 1F6C6-1F6CA 1F6D3-1F6D4 1F6D8-1F6DB 1F6E6-1F6E8 1F6EA",
   "1F6ED-1F6EF 1F6F1-1F6F2 1F6FD-1F6FF 1F774-1F77F 1F7D5-1F7DF 1F7EC-1F7EF 1F7F1-1F7FF",
   "1F80C-1F80F 1F848-1F84F 1F85A-1F85F 1F888-1F88F 1F8AE-1F8FF 1FA00-1FA6F 1FA7D-1FA7F",
   "1FA8A-1FA8E 1FAC7-1FACD 1FADD-1FADE 1FAEA-1FAEF 1FAF9-1FAFF 1FC00-1FFFD"]

def extendedPictographic : CodeSet := (emoji.diff unpictographicEmoji).union otherPictographs

end BoardBench.Text
