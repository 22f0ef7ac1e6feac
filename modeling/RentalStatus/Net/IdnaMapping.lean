import RentalStatus.Text.Properties

namespace RentalStatus

namespace Idna

/-- What becomes of a character in a domain name. -/
inductive Disposition where
  | valid
  | mapped (replacement : List Char)
  | ignored
  | disallowed
  deriving DecidableEq, Repr

def Disposition.ofWord : List Char → Option Disposition
  | ['V'] => some .valid
  | ['I'] => some .ignored
  | ['X'] => some .disallowed
  | 'M' :: rest => some (.mapped ((rest.splitOn ',').map fun h => Char.ofNat (Text.hexPrefix h 0).1))
  | _ => none

def mappingText : String :=
  "0V 41M61 42M62 43M63 44M64 45M65 46M66 47M67 48M68 49M69 4AM6A 4BM6B 4CM6C 4DM6D 4EM6E 4FM6F
50M70 51M71 52M72 53M73 54M74 55M75 56M76 57M77 58M78 59M79 5AM7A 5BV 80X A0M20 A1V A8M20,308
A9V AAM61 ABV ADI AEV AFM20,304 B0V B2M32 B3M33 B4M20,301 B5M3BC B6V B8M20,327 B9M31 BAM6F BBV
BCM31,2044,34 BDM31,2044,32 BEM33,2044,34 BFV C0ME0 C1ME1 C2ME2 C3ME3 C4ME4 C5ME5 C6ME6 C7ME7
C8ME8 C9ME9 CAMEA CBMEB CCMEC CDMED CEMEE CFMEF D0MF0 D1MF1 D2MF2 D3MF3 D4MF4 D5MF5 D6MF6 D7V
D8MF8 D9MF9 DAMFA DBMFB DCMFC DDMFD DEMFE DFV 100M101 101V 102M103 103V 104M105 105V 106M107
107V 108M109 109V 10AM10B 10BV 10CM10D 10DV 10EM10F 10FV 110M111 111V 112M113 113V 114M115 115V
116M117 117V 118M119 119V 11AM11B 11BV 11CM11D 11DV 11EM11F 11FV 120M121 121V 122M123 123V
124M125 125V 126M127 127V 128M129 129V 12AM12B 12BV 12CM12D 12DV 12EM12F 12FV 130M69,307 131V
132M69,6A 134M135 135V 136M137 137V 139M13A 13AV 13BM13C 13CV 13DM13E 13EV 13FM6C,B7 141M142
142V 143M144 144V 145M146 146V 147M148 148V 149M2BC,6E 14AM14B 14BV 14CM14D 14DV 14EM14F 14FV
150M151 151V 152M153 153V 154M155 155V 156M157 157V 158M159 159V 15AM15B 15BV 15CM15D 15DV
15EM15F 15FV 160M161 161V 162M163 163V 164M165 165V 166M167 167V 168M169 169V 16AM16B 16BV
16CM16D 16DV 16EM16F 16FV 170M171 171V 172M173 173V 174M175 175V 176M177 177V 178MFF 179M17A
17AV 17BM17C 17CV 17DM17E 17EV 17FM73 180V 181M253 182M183 183V 184M185 185V 186M254 187M188
188V 189M256 18AM257 18BM18C 18CV 18EM1DD 18FM259 190M25B 191M192 192V 193M260 194M263 195V
196M269 197M268 198M199 199V 19CM26F 19DM272 19EV 19FM275 1A0M1A1 1A1V 1A2M1A3 1A3V 1A4M1A5 1A5V
1A6M280 1A7M1A8 1A8V 1A9M283 1AAV 1ACM1AD 1ADV 1AEM288 1AFM1B0 1B0V 1B1M28A 1B2M28B 1B3M1B4 1B4V
1B5M1B6 1B6V 1B7M292 1B8M1B9 1B9V 1BCM1BD 1BDV 1C4M64,17E 1C7M6C,6A 1CAM6E,6A 1CDM1CE 1CEV
1CFM1D0 1D0V 1D1M1D2 1D2V 1D3M1D4 1D4V 1D5M1D6 1D6V 1D7M1D8 1D8V 1D9M1DA 1DAV 1DBM1DC 1DCV
1DEM1DF 1DFV 1E0M1E1 1E1V 1E2M1E3 1E3V 1E4M1E5 1E5V 1E6M1E7 1E7V 1E8M1E9 1E9V 1EAM1EB 1EBV
1ECM1ED 1EDV 1EEM1EF 1EFV 1F1M64,7A 1F4M1F5 1F5V 1F6M195 1F7M1BF 1F8M1F9 1F9V 1FAM1FB 1FBV
1FCM1FD 1FDV 1FEM1FF 1FFV 200M201 201V 202M203 203V 204M205 205V 206M207 207V 208M209 209V
20AM20B 20BV 20CM20D 20DV 20EM20F 20FV 210M211 211V 212M213 213V 214M215 215V 216M217 217V
218M219 219V 21AM21B 21BV 21CM21D 21DV 21EM21F 21FV 220M19E 221V 222M223 223V 224M225 225V
226M227 227V 228M229 229V 22AM22B 22BV 22CM22D 22DV 22EM22F 22FV 230M231 231V 232M233 233V
23AM2C65 23BM23C 23CV 23DM19A 23EM2C66 23FV 241M242 242V 243M180 244M289 245M28C 246M247 247V
248M249 249V 24AM24B 24BV 24CM24D 24DV 24EM24F 24FV 2B0M68 2B1M266 2B2M6A 2B3M72 2B4M279 2B5M27B
2B6M281 2B7M77 2B8M79 2B9V 2D8M20,306 2D9M20,307 2DAM20,30A 2DBM20,328 2DCM20,303 2DDM20,30B
2DEV 2E0M263 2E1M6C 2E2M73 2E3M78 2E4M295 2E5V 340M300 341M301 342V 343M313 344M308,301 345M3B9
346V 34FI 350V 370M371 371V 372M373 373V 374M2B9 375V 376M377 377V 378X 37AM20,3B9 37BV 37EM3B
37FM3F3 380X 384M20,301 385M20,308,301 386M3AC 387MB7 388M3AD 389M3AE 38AM3AF 38BX 38CM3CC 38DX
38EM3CD 38FM3CE 390V 391M3B1 392M3B2 393M3B3 394M3B4 395M3B5 396M3B6 397M3B7 398M3B8 399M3B9
39AM3BA 39BM3BB 39CM3BC 39DM3BD 39EM3BE 39FM3BF 3A0M3C0 3A1M3C1 3A2X 3A3M3C3 3A4M3C4 3A5M3C5
3A6M3C6 3A7M3C7 3A8M3C8 3A9M3C9 3AAM3CA 3ABM3CB 3ACV 3CFM3D7 3D0M3B2 3D1M3B8 3D2M3C5 3D3M3CD
3D4M3CB 3D5M3C6 3D6M3C0 3D7V 3D8M3D9 3D9V 3DAM3DB 3DBV 3DCM3DD 3DDV 3DEM3DF 3DFV 3E0M3E1 3E1V
3E2M3E3 3E3V 3E4M3E5 3E5V 3E6M3E7 3E7V 3E8M3E9 3E9V 3EAM3EB 3EBV 3ECM3ED 3EDV 3EEM3EF 3EFV
3F0M3BA 3F1M3C1 3F2M3C3 3F3V 3F4M3B8 3F5M3B5 3F6V 3F7M3F8 3F8V 3F9M3C3 3FAM3FB 3FBV 3FDM37B
3FEM37C 3FFM37D 400M450 401M451 402M452 403M453 404M454 405M455 406M456 407M457 408M458 409M459
40AM45A 40BM45B 40CM45C 40DM45D 40EM45E 40FM45F 410M430 411M431 412M432 413M433 414M434 415M435
416M436 417M437 418M438 419M439 41AM43A 41BM43B 41CM43C 41DM43D 41EM43E 41FM43F 420M440 421M441
422M442 423M443 424M444 425M445 426M446 427M447 428M448 429M449 42AM44A 42BM44B 42CM44C 42DM44D
42EM44E 42FM44F 430V 460M461 461V 462M463 463V 464M465 465V 466M467 467V 468M469 469V 46AM46B
46BV 46CM46D 46DV 46EM46F 46FV 470M471 471V 472M473 473V 474M475 475V 476M477 477V 478M479 479V
47AM47B 47BV 47CM47D 47DV 47EM47F 47FV 480M481 481V 48AM48B 48BV 48CM48D 48DV 48EM48F 48FV
490M491 491V 492M493 493V 494M495 495V 496M497 497V 498M499 499V 49AM49B 49BV 49CM49D 49DV
49EM49F 49FV 4A0M4A1 4A1V 4A2M4A3 4A3V 4A4M4A5 4A5V 4A6M4A7 4A7V 4A8M4A9 4A9V 4AAM4AB 4ABV
4ACM4AD 4ADV 4AEM4AF 4AFV 4B0M4B1 4B1V 4B2M4B3 4B3V 4B4M4B5 4B5V 4B6M4B7 4B7V 4B8M4B9 4B9V
4BAM4BB 4BBV 4BCM4BD 4BDV 4BEM4BF 4BFV 4C0M4CF 4C1M4C2 4C2V 4C3M4C4 4C4V 4C5M4C6 4C6V 4C7M4C8
4C8V 4C9M4CA 4CAV 4CBM4CC 4CCV 4CDM4CE 4CEV 4D0M4D1 4D1V 4D2M4D3 4D3V 4D4M4D5 4D5V 4D6M4D7 4D7V
4D8M4D9 4D9V 4DAM4DB 4DBV 4DCM4DD 4DDV 4DEM4DF 4DFV 4E0M4E1 4E1V 4E2M4E3 4E3V 4E4M4E5 4E5V
4E6M4E7 4E7V 4E8M4E9 4E9V 4EAM4EB 4EBV 4ECM4ED 4EDV 4EEM4EF 4EFV 4F0M4F1 4F1V 4F2M4F3 4F3V
4F4M4F5 4F5V 4F6M4F7 4F7V 4F8M4F9 4F9V 4FAM4FB 4FBV 4FCM4FD 4FDV 4FEM4FF 4FFV 500M501 501V
502M503 503V 504M505 505V 506M507 507V 508M509 509V 50AM50B 50BV 50CM50D 50DV 50EM50F 50FV
510M511 511V 512M513 513V 514M515 515V 516M517 517V 518M519 519V 51AM51B 51BV 51CM51D 51DV
51EM51F 51FV 520M521 521V 522M523 523V 524M525 525V 526M527 527V 528M529 529V 52AM52B 52BV
52CM52D 52DV 52EM52F 52FV 530X 531M561 532M562 533M563 534M564 535M565 536M566 537M567 538M568
539M569 53AM56A 53BM56B 53CM56C 53DM56D 53EM56E 53FM56F 540M570 541M571 542M572 543M573 544M574
545M575 546M576 547M577 548M578 549M579 54AM57A 54BM57B 54CM57C 54DM57D 54EM57E 54FM57F 550M580
551M581 552M582 553M583 554M584 555M585 556M586 557X 559V 587M565,582 588V 58BX 58DV 590X 591V
5C8X 5D0V 5EBX 5EFV 5F5X 606V 61CX 61DV 675M627,674 676M648,674 677M6C7,674 678M64A,674 679V
6DDX 6DEV 70EX 710V 74BX 74DV 7B2X 7C0V 7FBX 7FDV 82EX 830V 83FX 840V 85CX 85EV 85FX 860V 86BX
870V 890X 897V 8E2X 8E3V 958M915,93C 959M916,93C 95AM917,93C 95BM91C,93C 95CM921,93C 95DM922,93C
95EM92B,93C 95FM92F,93C 960V 984X 985V 98DX 98FV 991X 993V 9A9X 9AAV 9B1X 9B2V 9B3X 9B6V 9BAX
9BCV 9C5X 9C7V 9C9X 9CBV 9CFX 9D7V 9D8X 9DCM9A1,9BC 9DDM9A2,9BC 9DEX 9DFM9AF,9BC 9E0V 9E4X 9E6V
9FFX A01V A04X A05V A0BX A0FV A11X A13V A29X A2AV A31X A32V A33MA32,A3C A34X A35V A36MA38,A3C
A37X A38V A3AX A3CV A3DX A3EV A43X A47V A49X A4BV A4EX A51V A52X A59MA16,A3C A5AMA17,A3C
A5BMA1C,A3C A5CV A5DX A5EMA2B,A3C A5FX A66V A77X A81V A84X A85V A8EX A8FV A92X A93V AA9X AAAV
AB1X AB2V AB4X AB5V ABAX ABCV AC6X AC7V ACAX ACBV ACEX AD0V AD1X AE0V AE4X AE6V AF2X AF9V B00X
B01V B04X B05V B0DX B0FV B11X B13V B29X B2AV B31X B32V B34X B35V B3AX B3CV B45X B47V B49X B4BV
B4EX B55V B58X B5CMB21,B3C B5DMB22,B3C B5EX B5FV B64X B66V B78X B82V B84X B85V B8BX B8EV B91X
B92V B96X B99V B9BX B9CV B9DX B9EV BA0X BA3V BA5X BA8V BABX BAEV BBAX BBEV BC3X BC6V BC9X BCAV
BCEX BD0V BD1X BD7V BD8X BE6V BFBX C00V C0DX C0EV C11X C12V C29X C2AV C3AX C3CV C45X C46V C49X
C4AV C4EX C55V C57X C58V C5BX C5CV C5EX C60V C64X C66V C70X C77V C8DX C8EV C91X C92V CA9X CAAV
CB4X CB5V CBAX CBCV CC5X CC6V CC9X CCAV CCEX CD5V CD7X CDCV CDFX CE0V CE4X CE6V CF0X CF1V CF4X
D00V D0DX D0EV D11X D12V D45X D46V D49X D4AV D50X D54V D64X D66V D80X D81V D84X D85V D97X D9AV
DB2X DB3V DBCX DBDV DBEX DC0V DC7X DCAV DCBX DCFV DD5X DD6V DD7X DD8V DE0X DE6V DF0X DF2V DF5X
E01V E33ME4D,E32 E34V E3BX E3FV E5CX E81V E83X E84V E85X E86V E8BX E8CV EA4X EA5V EA6X EA7V
EB3MECD,EB2 EB4V EBEX EC0V EC5X EC6V EC7X EC8V ECFX ED0V EDAX EDCMEAB,E99 EDDMEAB,EA1 EDEV EE0X
F00V F0CMF0B F0DV F43MF42,FB7 F44V F48X F49V F4DMF4C,FB7 F4EV F52MF51,FB7 F53V F57MF56,FB7 F58V
F5CMF5B,FB7 F5DV F69MF40,FB5 F6AV F6DX F71V F73MF71,F72 F74V F75MF71,F74 F76MFB2,F80
F77MFB2,F71,F80 F78MFB3,F80 F79MFB3,F71,F80 F7AV F81MF71,F80 F82V F93MF92,FB7 F94V F98X F99V
F9DMF9C,FB7 F9EV FA2MFA1,FB7 FA3V FA7MFA6,FB7 FA8V FACMFAB,FB7 FADV FB9MF90,FB5 FBAV FBDX FBEV
FCDX FCEV FDBX 1000V 10A0M2D00 10A1M2D01 10A2M2D02 10A3M2D03 10A4M2D04 10A5M2D05 10A6M2D06
10A7M2D07 10A8M2D08 10A9M2D09 10AAM2D0A 10ABM2D0B 10ACM2D0C 10ADM2D0D 10AEM2D0E 10AFM2D0F
10B0M2D10 10B1M2D11 10B2M2D12 10B3M2D13 10B4M2D14 10B5M2D15 10B6M2D16 10B7M2D17 10B8M2D18
10B9M2D19 10BAM2D1A 10BBM2D1B 10BCM2D1C 10BDM2D1D 10BEM2D1E 10BFM2D1F 10C0M2D20 10C1M2D21
10C2M2D22 10C3M2D23 10C4M2D24 10C5M2D25 10C6X 10C7M2D27 10C8X 10CDM2D2D 10CEX 10D0V 10FCM10DC
10FDV 115FI 1161V 1249X 124AV 124EX 1250V 1257X 1258V 1259X 125AV 125EX 1260V 1289X 128AV 128EX
1290V 12B1X 12B2V 12B6X 12B8V 12BFX 12C0V 12C1X 12C2V 12C6X 12C8V 12D7X 12D8V 1311X 1312V 1316X
1318V 135BX 135DV 137DX 1380V 139AX 13A0V 13F6X 13F8M13F0 13F9M13F1 13FAM13F2 13FBM13F3
13FCM13F4 13FDM13F5 13FEX 1400V 1680X 1681V 169DX 16A0V 16F9X 1700V 1716X 171FV 1737X 1740V
1754X 1760V 176DX 176EV 1771X 1772V 1774X 1780V 17B4I 17B6V 17DEX 17E0V 17EAX 17F0V 17FAX 1800V
180BI 1810V 181AX 1820V 1879X 1880V 18ABX 18B0V 18F6X 1900V 191FX 1920V 192CX 1930V 193CX 1940V
1941X 1944V 196EX 1970V 1975X 1980V 19ACX 19B0V 19CAX 19D0V 19DBX 19DEV 1A1CX 1A1EV 1A5FX 1A60V
1A7DX 1A7FV 1A8AX 1A90V 1A9AX 1AA0V 1AAEX 1AB0V 1ADEX 1AE0V 1AECX 1B00V 1B4DX 1B4EV 1BF4X 1BFCV
1C38X 1C3BV 1C4AX 1C4DV 1C80M432 1C81M434 1C82M43E 1C83M441 1C84M442 1C86M44A 1C87M463 1C88MA64B
1C89M1C8A 1C8AV 1C8BX 1C90M10D0 1C91M10D1 1C92M10D2 1C93M10D3 1C94M10D4 1C95M10D5 1C96M10D6
1C97M10D7 1C98M10D8 1C99M10D9 1C9AM10DA 1C9BM10DB 1C9CM10DC 1C9DM10DD 1C9EM10DE 1C9FM10DF
1CA0M10E0 1CA1M10E1 1CA2M10E2 1CA3M10E3 1CA4M10E4 1CA5M10E5 1CA6M10E6 1CA7M10E7 1CA8M10E8
1CA9M10E9 1CAAM10EA 1CABM10EB 1CACM10EC 1CADM10ED 1CAEM10EE 1CAFM10EF 1CB0M10F0 1CB1M10F1
1CB2M10F2 1CB3M10F3 1CB4M10F4 1CB5M10F5 1CB6M10F6 1CB7M10F7 1CB8M10F8 1CB9M10F9 1CBAM10FA 1CBBX
1CBDM10FD 1CBEM10FE 1CBFM10FF 1CC0V 1CC8X 1CD0V 1CFBX 1D00V 1D2CM61 1D2DME6 1D2EM62 1D2FV
1D30M64 1D31M65 1D32M1DD 1D33M67 1D34M68 1D35M69 1D36M6A 1D37M6B 1D38M6C 1D39M6D 1D3AM6E 1D3BV
1D3CM6F 1D3DM223 1D3EM70 1D3FM72 1D40M74 1D41M75 1D42M77 1D43M61 1D44M250 1D45M251 1D46M1D02
1D47M62 1D48M64 1D49M65 1D4AM259 1D4BM25B 1D4CM25C 1D4DM67 1D4EV 1D4FM6B 1D50M6D 1D51M14B
1D52M6F 1D53M254 1D54M1D16 1D55M1D17 1D56M70 1D57M74 1D58M75 1D59M1D1D 1D5AM26F 1D5BM76
1D5CM1D25 1D5DM3B2 1D5EM3B3 1D5FM3B4 1D60M3C6 1D61M3C7 1D62M69 1D63M72 1D64M75 1D65M76 1D66M3B2
1D67M3B3 1D68M3C1 1D69M3C6 1D6AM3C7 1D6BV 1D78M43D 1D79V 1D9BM252 1D9CM63 1D9DM255 1D9EMF0
1D9FM25C 1DA0M66 1DA1M25F 1DA2M261 1DA3M265 1DA4M268 1DA5M269 1DA6M26A 1DA7M1D7B 1DA8M29D
1DA9M26D 1DAAM1D85 1DABM29F 1DACM271 1DADM270 1DAEM272 1DAFM273 1DB0M274 1DB1M275 1DB2M278
1DB3M282 1DB4M283 1DB5M1AB 1DB6M289 1DB7M28A 1DB8M1D1C 1DB9M28B 1DBAM28C 1DBBM7A 1DBCM290
1DBDM291 1DBEM292 1DBFM3B8 1DC0V 1E00M1E01 1E01V 1E02M1E03 1E03V 1E04M1E05 1E05V 1E06M1E07 1E07V
1E08M1E09 1E09V 1E0AM1E0B 1E0BV 1E0CM1E0D 1E0DV 1E0EM1E0F 1E0FV 1E10M1E11 1E11V 1E12M1E13 1E13V
1E14M1E15 1E15V 1E16M1E17 1E17V 1E18M1E19 1E19V 1E1AM1E1B 1E1BV 1E1CM1E1D 1E1DV 1E1EM1E1F 1E1FV
1E20M1E21 1E21V 1E22M1E23 1E23V 1E24M1E25 1E25V 1E26M1E27 1E27V 1E28M1E29 1E29V 1E2AM1E2B 1E2BV
1E2CM1E2D 1E2DV 1E2EM1E2F 1E2FV 1E30M1E31 1E31V 1E32M1E33 1E33V 1E34M1E35 1E35V 1E36M1E37 1E37V
1E38M1E39 1E39V 1E3AM1E3B 1E3BV 1E3CM1E3D 1E3DV 1E3EM1E3F 1E3FV 1E40M1E41 1E41V 1E42M1E43 1E43V
1E44M1E45 1E45V 1E46M1E47 1E47V 1E48M1E49 1E49V 1E4AM1E4B 1E4BV 1E4CM1E4D 1E4DV 1E4EM1E4F 1E4FV
1E50M1E51 1E51V 1E52M1E53 1E53V 1E54M1E55 1E55V 1E56M1E57 1E57V 1E58M1E59 1E59V 1E5AM1E5B 1E5BV
1E5CM1E5D 1E5DV 1E5EM1E5F 1E5FV 1E60M1E61 1E61V 1E62M1E63 1E63V 1E64M1E65 1E65V 1E66M1E67 1E67V
1E68M1E69 1E69V 1E6AM1E6B 1E6BV 1E6CM1E6D 1E6DV 1E6EM1E6F 1E6FV 1E70M1E71 1E71V 1E72M1E73 1E73V
1E74M1E75 1E75V 1E76M1E77 1E77V 1E78M1E79 1E79V 1E7AM1E7B 1E7BV 1E7CM1E7D 1E7DV 1E7EM1E7F 1E7FV
1E80M1E81 1E81V 1E82M1E83 1E83V 1E84M1E85 1E85V 1E86M1E87 1E87V 1E88M1E89 1E89V 1E8AM1E8B 1E8BV
1E8CM1E8D 1E8DV 1E8EM1E8F 1E8FV 1E90M1E91 1E91V 1E92M1E93 1E93V 1E94M1E95 1E95V 1E9AM61,2BE
1E9BM1E61 1E9CV 1E9EMDF 1E9FV 1EA0M1EA1 1EA1V 1EA2M1EA3 1EA3V 1EA4M1EA5 1EA5V 1EA6M1EA7 1EA7V
1EA8M1EA9 1EA9V 1EAAM1EAB 1EABV 1EACM1EAD 1EADV 1EAEM1EAF 1EAFV 1EB0M1EB1 1EB1V 1EB2M1EB3 1EB3V
1EB4M1EB5 1EB5V 1EB6M1EB7 1EB7V 1EB8M1EB9 1EB9V 1EBAM1EBB 1EBBV 1EBCM1EBD 1EBDV 1EBEM1EBF 1EBFV
1EC0M1EC1 1EC1V 1EC2M1EC3 1EC3V 1EC4M1EC5 1EC5V 1EC6M1EC7 1EC7V 1EC8M1EC9 1EC9V 1ECAM1ECB 1ECBV
1ECCM1ECD 1ECDV 1ECEM1ECF 1ECFV 1ED0M1ED1 1ED1V 1ED2M1ED3 1ED3V 1ED4M1ED5 1ED5V 1ED6M1ED7 1ED7V
1ED8M1ED9 1ED9V 1EDAM1EDB 1EDBV 1EDCM1EDD 1EDDV 1EDEM1EDF 1EDFV 1EE0M1EE1 1EE1V 1EE2M1EE3 1EE3V
1EE4M1EE5 1EE5V 1EE6M1EE7 1EE7V 1EE8M1EE9 1EE9V 1EEAM1EEB 1EEBV 1EECM1EED 1EEDV 1EEEM1EEF 1EEFV
1EF0M1EF1 1EF1V 1EF2M1EF3 1EF3V 1EF4M1EF5 1EF5V 1EF6M1EF7 1EF7V 1EF8M1EF9 1EF9V 1EFAM1EFB 1EFBV
1EFCM1EFD 1EFDV 1EFEM1EFF 1EFFV 1F08M1F00 1F09M1F01 1F0AM1F02 1F0BM1F03 1F0CM1F04 1F0DM1F05
1F0EM1F06 1F0FM1F07 1F10V 1F16X 1F18M1F10 1F19M1F11 1F1AM1F12 1F1BM1F13 1F1CM1F14 1F1DM1F15
1F1EX 1F20V 1F28M1F20 1F29M1F21 1F2AM1F22 1F2BM1F23 1F2CM1F24 1F2DM1F25 1F2EM1F26 1F2FM1F27
1F30V 1F38M1F30 1F39M1F31 1F3AM1F32 1F3BM1F33 1F3CM1F34 1F3DM1F35 1F3EM1F36 1F3FM1F37 1F40V
1F46X 1F48M1F40 1F49M1F41 1F4AM1F42 1F4BM1F43 1F4CM1F44 1F4DM1F45 1F4EX 1F50V 1F58X 1F59M1F51
1F5AX 1F5BM1F53 1F5CX 1F5DM1F55 1F5EX 1F5FM1F57 1F60V 1F68M1F60 1F69M1F61 1F6AM1F62 1F6BM1F63
1F6CM1F64 1F6DM1F65 1F6EM1F66 1F6FM1F67 1F70V 1F71M3AC 1F72V 1F73M3AD 1F74V 1F75M3AE 1F76V
1F77M3AF 1F78V 1F79M3CC 1F7AV 1F7BM3CD 1F7CV 1F7DM3CE 1F7EX 1F80M1F00,3B9 1F81M1F01,3B9
1F82M1F02,3B9 1F83M1F03,3B9 1F84M1F04,3B9 1F85M1F05,3B9 1F86M1F06,3B9 1F87M1F07,3B9
1F88M1F00,3B9 1F89M1F01,3B9 1F8AM1F02,3B9 1F8BM1F03,3B9 1F8CM1F04,3B9 1F8DM1F05,3B9
1F8EM1F06,3B9 1F8FM1F07,3B9 1F90M1F20,3B9 1F91M1F21,3B9 1F92M1F22,3B9 1F93M1F23,3B9
1F94M1F24,3B9 1F95M1F25,3B9 1F96M1F26,3B9 1F97M1F27,3B9 1F98M1F20,3B9 1F99M1F21,3B9
1F9AM1F22,3B9 1F9BM1F23,3B9 1F9CM1F24,3B9 1F9DM1F25,3B9 1F9EM1F26,3B9 1F9FM1F27,3B9
1FA0M1F60,3B9 1FA1M1F61,3B9 1FA2M1F62,3B9 1FA3M1F63,3B9 1FA4M1F64,3B9 1FA5M1F65,3B9
1FA6M1F66,3B9 1FA7M1F67,3B9 1FA8M1F60,3B9 1FA9M1F61,3B9 1FAAM1F62,3B9 1FABM1F63,3B9
1FACM1F64,3B9 1FADM1F65,3B9 1FAEM1F66,3B9 1FAFM1F67,3B9 1FB0V 1FB2M1F70,3B9 1FB3M3B1,3B9
1FB4M3AC,3B9 1FB5X 1FB6V 1FB7M1FB6,3B9 1FB8M1FB0 1FB9M1FB1 1FBAM1F70 1FBBM3AC 1FBCM3B1,3B9
1FBDM20,313 1FBEM3B9 1FBFM20,313 1FC0M20,342 1FC1M20,308,342 1FC2M1F74,3B9 1FC3M3B7,3B9
1FC4M3AE,3B9 1FC5X 1FC6V 1FC7M1FC6,3B9 1FC8M1F72 1FC9M3AD 1FCAM1F74 1FCBM3AE 1FCCM3B7,3B9
1FCDM20,313,300 1FCEM20,313,301 1FCFM20,313,342 1FD0V 1FD3M390 1FD4X 1FD6V 1FD8M1FD0 1FD9M1FD1
1FDAM1F76 1FDBM3AF 1FDCX 1FDDM20,314,300 1FDEM20,314,301 1FDFM20,314,342 1FE0V 1FE3M3B0 1FE4V
1FE8M1FE0 1FE9M1FE1 1FEAM1F7A 1FEBM3CD 1FECM1FE5 1FEDM20,308,300 1FEEM20,308,301 1FEFM60 1FF0X
1FF2M1F7C,3B9 1FF3M3C9,3B9 1FF4M3CE,3B9 1FF5X 1FF6V 1FF7M1FF6,3B9 1FF8M1F78 1FF9M3CC 1FFAM1F7C
1FFBM3CE 1FFCM3C9,3B9 1FFDM20,301 1FFEM20,314 1FFFX 2000M20 200BI 200CV 200EX 2010V 2011M2010
2012V 2017M20,333 2018V 2024X 2027V 2028X 202FM20 2030V 2033M2032,2032 2034M2032,2032,2032 2035V
2036M2035,2035 2037M2035,2035,2035 2038V 203CM21,21 203DV 203EM20,305 203FV 2047M3F,3F
2048M3F,21 2049M21,3F 204AV 2057M2032,2032,2032,2032 2058V 205FM20 2060I 2065X 206AI 2070M30
2071M69 2072X 2074M34 2075M35 2076M36 2077M37 2078M38 2079M39 207AM2B 207BM2212 207CM3D 207DM28
207EM29 207FM6E 2080M30 2081M31 2082M32 2083M33 2084M34 2085M35 2086M36 2087M37 2088M38 2089M39
208AM2B 208BM2212 208CM3D 208DM28 208EM29 208FX 2090M61 2091M65 2092M6F 2093M78 2094M259 2095M68
2096M6B 2097M6C 2098M6D 2099M6E 209AM70 209BM73 209CM74 209DX 20A0V 20A8M72,73 20A9V 20C2X 20D0V
20F1X 2100M61,2F,63 2101M61,2F,73 2102M63 2103MB0,63 2104V 2105M63,2F,6F 2106M63,2F,75 2107M25B
2108V 2109MB0,66 210AM67 210BM68 210FM127 2110M69 2112M6C 2114V 2115M6E 2116M6E,6F 2117V 2119M70
211AM71 211BM72 211EV 2120M73,6D 2121M74,65,6C 2122M74,6D 2123V 2124M7A 2125V 2126M3C9 2127V
2128M7A 2129V 212AM6B 212BME5 212CM62 212DM63 212EV 212FM65 2131M66 2132M214E 2133M6D 2134M6F
2135M5D0 2136M5D1 2137M5D2 2138M5D3 2139M69 213AV 213BM66,61,78 213CM3C0 213DM3B3 213FM3C0
2140M2211 2141V 2145M64 2147M65 2148M69 2149M6A 214AV 2150M31,2044,37 2151M31,2044,39
2152M31,2044,31,30 2153M31,2044,33 2154M32,2044,33 2155M31,2044,35 2156M32,2044,35
2157M33,2044,35 2158M34,2044,35 2159M31,2044,36 215AM35,2044,36 215BM31,2044,38 215CM33,2044,38
215DM35,2044,38 215EM37,2044,38 215FM31,2044 2160M69 2161M69,69 2162M69,69,69 2163M69,76 2164M76
2165M76,69 2166M76,69,69 2167M76,69,69,69 2168M69,78 2169M78 216AM78,69 216BM78,69,69 216CM6C
216DM63 216EM64 216FM6D 2170M69 2171M69,69 2172M69,69,69 2173M69,76 2174M76 2175M76,69
2176M76,69,69 2177M76,69,69,69 2178M69,78 2179M78 217AM78,69 217BM78,69,69 217CM6C 217DM63
217EM64 217FM6D 2180V 2183M2184 2184V 2189M30,2044,33 218AV 218CX 2190V 222CM222B,222B
222DM222B,222B,222B 222EV 222FM222E,222E 2230M222E,222E,222E 2231V 2329M3008 232AM3009 232BV
242AX 2440V 244BX 2460M31 2461M32 2462M33 2463M34 2464M35 2465M36 2466M37 2467M38 2468M39
2469M31,30 246AM31,31 246BM31,32 246CM31,33 246DM31,34 246EM31,35 246FM31,36 2470M31,37
2471M31,38 2472M31,39 2473M32,30 2474M28,31,29 2475M28,32,29 2476M28,33,29 2477M28,34,29
2478M28,35,29 2479M28,36,29 247AM28,37,29 247BM28,38,29 247CM28,39,29 247DM28,31,30,29
247EM28,31,31,29 247FM28,31,32,29 2480M28,31,33,29 2481M28,31,34,29 2482M28,31,35,29
2483M28,31,36,29 2484M28,31,37,29 2485M28,31,38,29 2486M28,31,39,29 2487M28,32,30,29 2488X
249CM28,61,29 249DM28,62,29 249EM28,63,29 249FM28,64,29 24A0M28,65,29 24A1M28,66,29
24A2M28,67,29 24A3M28,68,29 24A4M28,69,29 24A5M28,6A,29 24A6M28,6B,29 24A7M28,6C,29
24A8M28,6D,29 24A9M28,6E,29 24AAM28,6F,29 24ABM28,70,29 24ACM28,71,29 24ADM28,72,29
24AEM28,73,29 24AFM28,74,29 24B0M28,75,29 24B1M28,76,29 24B2M28,77,29 24B3M28,78,29
24B4M28,79,29 24B5M28,7A,29 24B6M61 24B7M62 24B8M63 24B9M64 24BAM65 24BBM66 24BCM67 24BDM68
24BEM69 24BFM6A 24C0M6B 24C1M6C 24C2M6D 24C3M6E 24C4M6F 24C5M70 24C6M71 24C7M72 24C8M73 24C9M74
24CAM75 24CBM76 24CCM77 24CDM78 24CEM79 24CFM7A 24D0M61 24D1M62 24D2M63 24D3M64 24D4M65 24D5M66
24D6M67 24D7M68 24D8M69 24D9M6A 24DAM6B 24DBM6C 24DCM6D 24DDM6E 24DEM6F 24DFM70 24E0M71 24E1M72
24E2M73 24E3M74 24E4M75 24E5M76 24E6M77 24E7M78 24E8M79 24E9M7A 24EAM30 24EBV
2A0CM222B,222B,222B,222B 2A0DV 2A74M3A,3A,3D 2A75M3D,3D 2A76M3D,3D,3D 2A77V 2ADCM2ADD,338 2ADDV
2B74X 2B76V 2C00M2C30 2C01M2C31 2C02M2C32 2C03M2C33 2C04M2C34 2C05M2C35 2C06M2C36 2C07M2C37
2C08M2C38 2C09M2C39 2C0AM2C3A 2C0BM2C3B 2C0CM2C3C 2C0DM2C3D 2C0EM2C3E 2C0FM2C3F 2C10M2C40
2C11M2C41 2C12M2C42 2C13M2C43 2C14M2C44 2C15M2C45 2C16M2C46 2C17M2C47 2C18M2C48 2C19M2C49
2C1AM2C4A 2C1BM2C4B 2C1CM2C4C 2C1DM2C4D 2C1EM2C4E 2C1FM2C4F 2C20M2C50 2C21M2C51 2C22M2C52
2C23M2C53 2C24M2C54 2C25M2C55 2C26M2C56 2C27M2C57 2C28M2C58 2C29M2C59 2C2AM2C5A 2C2BM2C5B
2C2CM2C5C 2C2DM2C5D 2C2EM2C5E 2C2FM2C5F 2C30V 2C60M2C61 2C61V 2C62M26B 2C63M1D7D 2C64M27D 2C65V
2C67M2C68 2C68V 2C69M2C6A 2C6AV 2C6BM2C6C 2C6CV 2C6DM251 2C6EM271 2C6FM250 2C70M252 2C71V
2C72M2C73 2C73V 2C75M2C76 2C76V 2C7CM6A 2C7DM76 2C7EM23F 2C7FM240 2C80M2C81 2C81V 2C82M2C83
2C83V 2C84M2C85 2C85V 2C86M2C87 2C87V 2C88M2C89 2C89V 2C8AM2C8B 2C8BV 2C8CM2C8D 2C8DV 2C8EM2C8F
2C8FV 2C90M2C91 2C91V 2C92M2C93 2C93V 2C94M2C95 2C95V 2C96M2C97 2C97V 2C98M2C99 2C99V 2C9AM2C9B
2C9BV 2C9CM2C9D 2C9DV 2C9EM2C9F 2C9FV 2CA0M2CA1 2CA1V 2CA2M2CA3 2CA3V 2CA4M2CA5 2CA5V 2CA6M2CA7
2CA7V 2CA8M2CA9 2CA9V 2CAAM2CAB 2CABV 2CACM2CAD 2CADV 2CAEM2CAF 2CAFV 2CB0M2CB1 2CB1V 2CB2M2CB3
2CB3V 2CB4M2CB5 2CB5V 2CB6M2CB7 2CB7V 2CB8M2CB9 2CB9V 2CBAM2CBB 2CBBV 2CBCM2CBD 2CBDV 2CBEM2CBF
2CBFV 2CC0M2CC1 2CC1V 2CC2M2CC3 2CC3V 2CC4M2CC5 2CC5V 2CC6M2CC7 2CC7V 2CC8M2CC9 2CC9V 2CCAM2CCB
2CCBV 2CCCM2CCD 2CCDV 2CCEM2CCF 2CCFV 2CD0M2CD1 2CD1V 2CD2M2CD3 2CD3V 2CD4M2CD5 2CD5V 2CD6M2CD7
2CD7V 2CD8M2CD9 2CD9V 2CDAM2CDB 2CDBV 2CDCM2CDD 2CDDV 2CDEM2CDF 2CDFV 2CE0M2CE1 2CE1V 2CE2M2CE3
2CE3V 2CEBM2CEC 2CECV 2CEDM2CEE 2CEEV 2CF2M2CF3 2CF3V 2CF4X 2CF9V 2D26X 2D27V 2D28X 2D2DV 2D2EX
2D30V 2D68X 2D6FM2D61 2D70V 2D71X 2D7FV 2D97X 2DA0V 2DA7X 2DA8V 2DAFX 2DB0V 2DB7X 2DB8V 2DBFX
2DC0V 2DC7X 2DC8V 2DCFX 2DD0V 2DD7X 2DD8V 2DDFX 2DE0V 2E5EX 2E80V 2E9AX 2E9BV 2E9FM6BCD 2EA0V
2EF3M9F9F 2EF4X 2F00M4E00 2F01M4E28 2F02M4E36 2F03M4E3F 2F04M4E59 2F05M4E85 2F06M4E8C 2F07M4EA0
2F08M4EBA 2F09M513F 2F0AM5165 2F0BM516B 2F0CM5182 2F0DM5196 2F0EM51AB 2F0FM51E0 2F10M51F5
2F11M5200 2F12M529B 2F13M52F9 2F14M5315 2F15M531A 2F16M5338 2F17M5341 2F18M535C 2F19M5369
2F1AM5382 2F1BM53B6 2F1CM53C8 2F1DM53E3 2F1EM56D7 2F1FM571F 2F20M58EB 2F21M5902 2F22M590A
2F23M5915 2F24M5927 2F25M5973 2F26M5B50 2F27M5B80 2F28M5BF8 2F29M5C0F 2F2AM5C22 2F2BM5C38
2F2CM5C6E 2F2DM5C71 2F2EM5DDB 2F2FM5DE5 2F30M5DF1 2F31M5DFE 2F32M5E72 2F33M5E7A 2F34M5E7F
2F35M5EF4 2F36M5EFE 2F37M5F0B 2F38M5F13 2F39M5F50 2F3AM5F61 2F3BM5F73 2F3CM5FC3 2F3DM6208
2F3EM6236 2F3FM624B 2F40M652F 2F41M6534 2F42M6587 2F43M6597 2F44M65A4 2F45M65B9 2F46M65E0
2F47M65E5 2F48M66F0 2F49M6708 2F4AM6728 2F4BM6B20 2F4CM6B62 2F4DM6B79 2F4EM6BB3 2F4FM6BCB
2F50M6BD4 2F51M6BDB 2F52M6C0F 2F53M6C14 2F54M6C34 2F55M706B 2F56M722A 2F57M7236 2F58M723B
2F59M723F 2F5AM7247 2F5BM7259 2F5CM725B 2F5DM72AC 2F5EM7384 2F5FM7389 2F60M74DC 2F61M74E6
2F62M7518 2F63M751F 2F64M7528 2F65M7530 2F66M758B 2F67M7592 2F68M7676 2F69M767D 2F6AM76AE
2F6BM76BF 2F6CM76EE 2F6DM77DB 2F6EM77E2 2F6FM77F3 2F70M793A 2F71M79B8 2F72M79BE 2F73M7A74
2F74M7ACB 2F75M7AF9 2F76M7C73 2F77M7CF8 2F78M7F36 2F79M7F51 2F7AM7F8A 2F7BM7FBD 2F7CM8001
2F7DM800C 2F7EM8012 2F7FM8033 2F80M807F 2F81M8089 2F82M81E3 2F83M81EA 2F84M81F3 2F85M81FC
2F86M820C 2F87M821B 2F88M821F 2F89M826E 2F8AM8272 2F8BM8278 2F8CM864D 2F8DM866B 2F8EM8840
2F8FM884C 2F90M8863 2F91M897E 2F92M898B 2F93M89D2 2F94M8A00 2F95M8C37 2F96M8C46 2F97M8C55
2F98M8C78 2F99M8C9D 2F9AM8D64 2F9BM8D70 2F9CM8DB3 2F9DM8EAB 2F9EM8ECA 2F9FM8F9B 2FA0M8FB0
2FA1M8FB5 2FA2M9091 2FA3M9149 2FA4M91C6 2FA5M91CC 2FA6M91D1 2FA7M9577 2FA8M9580 2FA9M961C
2FAAM96B6 2FABM96B9 2FACM96E8 2FADM9751 2FAEM975E 2FAFM9762 2FB0M9769 2FB1M97CB 2FB2M97ED
2FB3M97F3 2FB4M9801 2FB5M98A8 2FB6M98DB 2FB7M98DF 2FB8M9996 2FB9M9999 2FBAM99AC 2FBBM9AA8
2FBCM9AD8 2FBDM9ADF 2FBEM9B25 2FBFM9B2F 2FC0M9B32 2FC1M9B3C 2FC2M9B5A 2FC3M9CE5 2FC4M9E75
2FC5M9E7F 2FC6M9EA5 2FC7M9EBB 2FC8M9EC3 2FC9M9ECD 2FCAM9ED1 2FCBM9EF9 2FCCM9EFD 2FCDM9F0E
2FCEM9F13 2FCFM9F20 2FD0M9F3B 2FD1M9F4A 2FD2M9F52 2FD3M9F8D 2FD4M9F9C 2FD5M9FA0 2FD6X 3000M20
3001V 3002M2E 3003V 3036M3012 3037V 3038M5341 3039M5344 303AM5345 303BV 3040X 3041V 3097X 3099V
309BM20,3099 309CM20,309A 309DV 309FM3088,308A 30A0V 30FFM30B3,30C8 3100X 3105V 3130X 3131M1100
3132M1101 3133M11AA 3134M1102 3135M11AC 3136M11AD 3137M1103 3138M1104 3139M1105 313AM11B0
313BM11B1 313CM11B2 313DM11B3 313EM11B4 313FM11B5 3140M111A 3141M1106 3142M1107 3143M1108
3144M1121 3145M1109 3146M110A 3147M110B 3148M110C 3149M110D 314AM110E 314BM110F 314CM1110
314DM1111 314EM1112 314FM1161 3150M1162 3151M1163 3152M1164 3153M1165 3154M1166 3155M1167
3156M1168 3157M1169 3158M116A 3159M116B 315AM116C 315BM116D 315CM116E 315DM116F 315EM1170
315FM1171 3160M1172 3161M1173 3162M1174 3163M1175 3164I 3165M1114 3166M1115 3167M11C7 3168M11C8
3169M11CC 316AM11CE 316BM11D3 316CM11D7 316DM11D9 316EM111C 316FM11DD 3170M11DF 3171M111D
3172M111E 3173M1120 3174M1122 3175M1123 3176M1127 3177M1129 3178M112B 3179M112C 317AM112D
317BM112E 317CM112F 317DM1132 317EM1136 317FM1140 3180M1147 3181M114C 3182M11F1 3183M11F2
3184M1157 3185M1158 3186M1159 3187M1184 3188M1185 3189M1188 318AM1191 318BM1192 318CM1194
318DM119E 318EM11A1 318FX 3190V 3192M4E00 3193M4E8C 3194M4E09 3195M56DB 3196M4E0A 3197M4E2D
3198M4E0B 3199M7532 319AM4E59 319BM4E19 319CM4E01 319DM5929 319EM5730 319FM4EBA 31A0V 31E6X
31F0V 3200M28,1100,29 3201M28,1102,29 3202M28,1103,29 3203M28,1105,29 3204M28,1106,29
3205M28,1107,29 3206M28,1109,29 3207M28,110B,29 3208M28,110C,29 3209M28,110E,29 320AM28,110F,29
320BM28,1110,29 320CM28,1111,29 320DM28,1112,29 320EM28,AC00,29 320FM28,B098,29 3210M28,B2E4,29
3211M28,B77C,29 3212M28,B9C8,29 3213M28,BC14,29 3214M28,C0AC,29 3215M28,C544,29 3216M28,C790,29
3217M28,CC28,29 3218M28,CE74,29 3219M28,D0C0,29 321AM28,D30C,29 321BM28,D558,29 321CM28,C8FC,29
321DM28,C624,C804,29 321EM28,C624,D6C4,29 321FX 3220M28,4E00,29 3221M28,4E8C,29 3222M28,4E09,29
3223M28,56DB,29 3224M28,4E94,29 3225M28,516D,29 3226M28,4E03,29 3227M28,516B,29 3228M28,4E5D,29
3229M28,5341,29 322AM28,6708,29 322BM28,706B,29 322CM28,6C34,29 322DM28,6728,29 322EM28,91D1,29
322FM28,571F,29 3230M28,65E5,29 3231M28,682A,29 3232M28,6709,29 3233M28,793E,29 3234M28,540D,29
3235M28,7279,29 3236M28,8CA1,29 3237M28,795D,29 3238M28,52B4,29 3239M28,4EE3,29 323AM28,547C,29
323BM28,5B66,29 323CM28,76E3,29 323DM28,4F01,29 323EM28,8CC7,29 323FM28,5354,29 3240M28,796D,29
3241M28,4F11,29 3242M28,81EA,29 3243M28,81F3,29 3244M554F 3245M5E7C 3246M6587 3247M7B8F 3248V
3250M70,74,65 3251M32,31 3252M32,32 3253M32,33 3254M32,34 3255M32,35 3256M32,36 3257M32,37
3258M32,38 3259M32,39 325AM33,30 325BM33,31 325CM33,32 325DM33,33 325EM33,34 325FM33,35
3260M1100 3261M1102 3262M1103 3263M1105 3264M1106 3265M1107 3266M1109 3267M110B 3268M110C
3269M110E 326AM110F 326BM1110 326CM1111 326DM1112 326EMAC00 326FMB098 3270MB2E4 3271MB77C
3272MB9C8 3273MBC14 3274MC0AC 3275MC544 3276MC790 3277MCC28 3278MCE74 3279MD0C0 327AMD30C
327BMD558 327CMCC38,ACE0 327DMC8FC,C758 327EMC6B0 327FV 3280M4E00 3281M4E8C 3282M4E09 3283M56DB
3284M4E94 3285M516D 3286M4E03 3287M516B 3288M4E5D 3289M5341 328AM6708 328BM706B 328CM6C34
328DM6728 328EM91D1 328FM571F 3290M65E5 3291M682A 3292M6709 3293M793E 3294M540D 3295M7279
3296M8CA1 3297M795D 3298M52B4 3299M79D8 329AM7537 329BM5973 329CM9069 329DM512A 329EM5370
329FM6CE8 32A0M9805 32A1M4F11 32A2M5199 32A3M6B63 32A4M4E0A 32A5M4E2D 32A6M4E0B 32A7M5DE6
32A8M53F3 32A9M533B 32AAM5B97 32ABM5B66 32ACM76E3 32ADM4F01 32AEM8CC7 32AFM5354 32B0M591C
32B1M33,36 32B2M33,37 32B3M33,38 32B4M33,39 32B5M34,30 32B6M34,31 32B7M34,32 32B8M34,33
32B9M34,34 32BAM34,35 32BBM34,36 32BCM34,37 32BDM34,38 32BEM34,39 32BFM35,30 32C0M31,6708
32C1M32,6708 32C2M33,6708 32C3M34,6708 32C4M35,6708 32C5M36,6708 32C6M37,6708 32C7M38,6708
32C8M39,6708 32C9M31,30,6708 32CAM31,31,6708 32CBM31,32,6708 32CCM68,67 32CDM65,72,67 32CEM65,76
32CFM6C,74,64 32D0M30A2 32D1M30A4 32D2M30A6 32D3M30A8 32D4M30AA 32D5M30AB 32D6M30AD 32D7M30AF
32D8M30B1 32D9M30B3 32DAM30B5 32DBM30B7 32DCM30B9 32DDM30BB 32DEM30BD 32DFM30BF 32E0M30C1
32E1M30C4 32E2M30C6 32E3M30C8 32E4M30CA 32E5M30CB 32E6M30CC 32E7M30CD 32E8M30CE 32E9M30CF
32EAM30D2 32EBM30D5 32ECM30D8 32EDM30DB 32EEM30DE 32EFM30DF 32F0M30E0 32F1M30E1 32F2M30E2
32F3M30E4 32F4M30E6 32F5M30E8 32F6M30E9 32F7M30EA 32F8M30EB 32F9M30EC 32FAM30ED 32FBM30EF
32FCM30F0 32FDM30F1 32FEM30F2 32FFM4EE4,548C 3300M30A2,30D1,30FC,30C8 3301M30A2,30EB,30D5,30A1
3302M30A2,30F3,30DA,30A2 3303M30A2,30FC,30EB 3304M30A4,30CB,30F3,30B0 3305M30A4,30F3,30C1
3306M30A6,30A9,30F3 3307M30A8,30B9,30AF,30FC,30C9 3308M30A8,30FC,30AB,30FC 3309M30AA,30F3,30B9
330AM30AA,30FC,30E0 330BM30AB,30A4,30EA 330CM30AB,30E9,30C3,30C8 330DM30AB,30ED,30EA,30FC
330EM30AC,30ED,30F3 330FM30AC,30F3,30DE 3310M30AE,30AC 3311M30AE,30CB,30FC
3312M30AD,30E5,30EA,30FC 3313M30AE,30EB,30C0,30FC 3314M30AD,30ED 3315M30AD,30ED,30B0,30E9,30E0
3316M30AD,30ED,30E1,30FC,30C8,30EB 3317M30AD,30ED,30EF,30C3,30C8 3318M30B0,30E9,30E0
3319M30B0,30E9,30E0,30C8,30F3 331AM30AF,30EB,30BC,30A4,30ED 331BM30AF,30ED,30FC,30CD
331CM30B1,30FC,30B9 331DM30B3,30EB,30CA 331EM30B3,30FC,30DD 331FM30B5,30A4,30AF,30EB
3320M30B5,30F3,30C1,30FC,30E0 3321M30B7,30EA,30F3,30B0 3322M30BB,30F3,30C1 3323M30BB,30F3,30C8
3324M30C0,30FC,30B9 3325M30C7,30B7 3326M30C9,30EB 3327M30C8,30F3 3328M30CA,30CE
3329M30CE,30C3,30C8 332AM30CF,30A4,30C4 332BM30D1,30FC,30BB,30F3,30C8 332CM30D1,30FC,30C4
332DM30D0,30FC,30EC,30EB 332EM30D4,30A2,30B9,30C8,30EB 332FM30D4,30AF,30EB 3330M30D4,30B3
3331M30D3,30EB 3332M30D5,30A1,30E9,30C3,30C9 3333M30D5,30A3,30FC,30C8
3334M30D6,30C3,30B7,30A7,30EB 3335M30D5,30E9,30F3 3336M30D8,30AF,30BF,30FC,30EB 3337M30DA,30BD
3338M30DA,30CB,30D2 3339M30D8,30EB,30C4 333AM30DA,30F3,30B9 333BM30DA,30FC,30B8
333CM30D9,30FC,30BF 333DM30DD,30A4,30F3,30C8 333EM30DC,30EB,30C8 333FM30DB,30F3
3340M30DD,30F3,30C9 3341M30DB,30FC,30EB 3342M30DB,30FC,30F3 3343M30DE,30A4,30AF,30ED
3344M30DE,30A4,30EB 3345M30DE,30C3,30CF 3346M30DE,30EB,30AF 3347M30DE,30F3,30B7,30E7,30F3
3348M30DF,30AF,30ED,30F3 3349M30DF,30EA 334AM30DF,30EA,30D0,30FC,30EB 334BM30E1,30AC
334CM30E1,30AC,30C8,30F3 334DM30E1,30FC,30C8,30EB 334EM30E4,30FC,30C9 334FM30E4,30FC,30EB
3350M30E6,30A2,30F3 3351M30EA,30C3,30C8,30EB 3352M30EA,30E9 3353M30EB,30D4,30FC
3354M30EB,30FC,30D6,30EB 3355M30EC,30E0 3356M30EC,30F3,30C8,30B2,30F3 3357M30EF,30C3,30C8
3358M30,70B9 3359M31,70B9 335AM32,70B9 335BM33,70B9 335CM34,70B9 335DM35,70B9 335EM36,70B9
335FM37,70B9 3360M38,70B9 3361M39,70B9 3362M31,30,70B9 3363M31,31,70B9 3364M31,32,70B9
3365M31,33,70B9 3366M31,34,70B9 3367M31,35,70B9 3368M31,36,70B9 3369M31,37,70B9 336AM31,38,70B9
336BM31,39,70B9 336CM32,30,70B9 336DM32,31,70B9 336EM32,32,70B9 336FM32,33,70B9 3370M32,34,70B9
3371M68,70,61 3372M64,61 3373M61,75 3374M62,61,72 3375M6F,76 3376M70,63 3377M64,6D 3378M64,6D,32
3379M64,6D,33 337AM69,75 337BM5E73,6210 337CM662D,548C 337DM5927,6B63 337EM660E,6CBB
337FM682A,5F0F,4F1A,793E 3380M70,61 3381M6E,61 3382M3BC,61 3383M6D,61 3384M6B,61 3385M6B,62
3386M6D,62 3387M67,62 3388M63,61,6C 3389M6B,63,61,6C 338AM70,66 338BM6E,66 338CM3BC,66
338DM3BC,67 338EM6D,67 338FM6B,67 3390M68,7A 3391M6B,68,7A 3392M6D,68,7A 3393M67,68,7A
3394M74,68,7A 3395M3BC,6C 3396M6D,6C 3397M64,6C 3398M6B,6C 3399M66,6D 339AM6E,6D 339BM3BC,6D
339CM6D,6D 339DM63,6D 339EM6B,6D 339FM6D,6D,32 33A0M63,6D,32 33A1M6D,32 33A2M6B,6D,32
33A3M6D,6D,33 33A4M63,6D,33 33A5M6D,33 33A6M6B,6D,33 33A7M6D,2215,73 33A8M6D,2215,73,32
33A9M70,61 33AAM6B,70,61 33ABM6D,70,61 33ACM67,70,61 33ADM72,61,64 33AEM72,61,64,2215,73
33AFM72,61,64,2215,73,32 33B0M70,73 33B1M6E,73 33B2M3BC,73 33B3M6D,73 33B4M70,76 33B5M6E,76
33B6M3BC,76 33B7M6D,76 33B8M6B,76 33B9M6D,76 33BAM70,77 33BBM6E,77 33BCM3BC,77 33BDM6D,77
33BEM6B,77 33BFM6D,77 33C0M6B,3C9 33C1M6D,3C9 33C2X 33C3M62,71 33C4M63,63 33C5M63,64
33C6M63,2215,6B,67 33C7X 33C8M64,62 33C9M67,79 33CAM68,61 33CBM68,70 33CCM69,6E 33CDM6B,6B
33CEM6B,6D 33CFM6B,74 33D0M6C,6D 33D1M6C,6E 33D2M6C,6F,67 33D3M6C,78 33D4M6D,62 33D5M6D,69,6C
33D6M6D,6F,6C 33D7M70,68 33D8X 33D9M70,70,6D 33DAM70,72 33DBM73,72 33DCM73,76 33DDM77,62
33DEM76,2215,6D 33DFM61,2215,6D 33E0M31,65E5 33E1M32,65E5 33E2M33,65E5 33E3M34,65E5 33E4M35,65E5
33E5M36,65E5 33E6M37,65E5 33E7M38,65E5 33E8M39,65E5 33E9M31,30,65E5 33EAM31,31,65E5
33EBM31,32,65E5 33ECM31,33,65E5 33EDM31,34,65E5 33EEM31,35,65E5 33EFM31,36,65E5 33F0M31,37,65E5
33F1M31,38,65E5 33F2M31,39,65E5 33F3M32,30,65E5 33F4M32,31,65E5 33F5M32,32,65E5 33F6M32,33,65E5
33F7M32,34,65E5 33F8M32,35,65E5 33F9M32,36,65E5 33FAM32,37,65E5 33FBM32,38,65E5 33FCM32,39,65E5
33FDM33,30,65E5 33FEM33,31,65E5 33FFM67,61,6C 3400V A48DX A490V A4C7X A4D0V A62CX A640MA641
A641V A642MA643 A643V A644MA645 A645V A646MA647 A647V A648MA649 A649V A64AMA64B A64BV A64CMA64D
A64DV A64EMA64F A64FV A650MA651 A651V A652MA653 A653V A654MA655 A655V A656MA657 A657V A658MA659
A659V A65AMA65B A65BV A65CMA65D A65DV A65EMA65F A65FV A660MA661 A661V A662MA663 A663V A664MA665
A665V A666MA667 A667V A668MA669 A669V A66AMA66B A66BV A66CMA66D A66DV A680MA681 A681V A682MA683
A683V A684MA685 A685V A686MA687 A687V A688MA689 A689V A68AMA68B A68BV A68CMA68D A68DV A68EMA68F
A68FV A690MA691 A691V A692MA693 A693V A694MA695 A695V A696MA697 A697V A698MA699 A699V A69AMA69B
A69BV A69CM44A A69DM44C A69EV A6F8X A700V A722MA723 A723V A724MA725 A725V A726MA727 A727V
A728MA729 A729V A72AMA72B A72BV A72CMA72D A72DV A72EMA72F A72FV A732MA733 A733V A734MA735 A735V
A736MA737 A737V A738MA739 A739V A73AMA73B A73BV A73CMA73D A73DV A73EMA73F A73FV A740MA741 A741V
A742MA743 A743V A744MA745 A745V A746MA747 A747V A748MA749 A749V A74AMA74B A74BV A74CMA74D A74DV
A74EMA74F A74FV A750MA751 A751V A752MA753 A753V A754MA755 A755V A756MA757 A757V A758MA759 A759V
A75AMA75B A75BV A75CMA75D A75DV A75EMA75F A75FV A760MA761 A761V A762MA763 A763V A764MA765 A765V
A766MA767 A767V A768MA769 A769V A76AMA76B A76BV A76CMA76D A76DV A76EMA76F A76FV A770MA76F A771V
A779MA77A A77AV A77BMA77C A77CV A77DM1D79 A77EMA77F A77FV A780MA781 A781V A782MA783 A783V
A784MA785 A785V A786MA787 A787V A78BMA78C A78CV A78DM265 A78EV A790MA791 A791V A792MA793 A793V
A796MA797 A797V A798MA799 A799V A79AMA79B A79BV A79CMA79D A79DV A79EMA79F A79FV A7A0MA7A1 A7A1V
A7A2MA7A3 A7A3V A7A4MA7A5 A7A5V A7A6MA7A7 A7A7V A7A8MA7A9 A7A9V A7AAM266 A7ABM25C A7ACM261
A7ADM26C A7AEM26A A7AFV A7B0M29E A7B1M287 A7B2M29D A7B3MAB53 A7B4MA7B5 A7B5V A7B6MA7B7 A7B7V
A7B8MA7B9 A7B9V A7BAMA7BB A7BBV A7BCMA7BD A7BDV A7BEMA7BF A7BFV A7C0MA7C1 A7C1V A7C2MA7C3 A7C3V
A7C4MA794 A7C5M282 A7C6M1D8E A7C7MA7C8 A7C8V A7C9MA7CA A7CAV A7CBM264 A7CCMA7CD A7CDV A7CEMA7CF
A7CFV A7D0MA7D1 A7D1V A7D2MA7D3 A7D3V A7D4MA7D5 A7D5V A7D6MA7D7 A7D7V A7D8MA7D9 A7D9V A7DAMA7DB
A7DBV A7DCM19B A7DDX A7F1M73 A7F2M63 A7F3M66 A7F4M71 A7F5MA7F6 A7F6V A7F8M127 A7F9M153 A7FAV
A82DX A830V A83AX A840V A878X A880V A8C6X A8CEV A8DAX A8E0V A954X A95FV A97DX A980V A9CEX A9CFV
A9DAX A9DEV A9FFX AA00V AA37X AA40V AA4EX AA50V AA5AX AA5CV AAC3X AADBV AAF7X AB01V AB07X AB09V
AB0FX AB11V AB17X AB20V AB27X AB28V AB2FX AB30V AB5CMA727 AB5DMAB37 AB5EM26B AB5FMAB52 AB60V
AB69M28D AB6AV AB6CX AB70M13A0 AB71M13A1 AB72M13A2 AB73M13A3 AB74M13A4 AB75M13A5 AB76M13A6
AB77M13A7 AB78M13A8 AB79M13A9 AB7AM13AA AB7BM13AB AB7CM13AC AB7DM13AD AB7EM13AE AB7FM13AF
AB80M13B0 AB81M13B1 AB82M13B2 AB83M13B3 AB84M13B4 AB85M13B5 AB86M13B6 AB87M13B7 AB88M13B8
AB89M13B9 AB8AM13BA AB8BM13BB AB8CM13BC AB8DM13BD AB8EM13BE AB8FM13BF AB90M13C0 AB91M13C1
AB92M13C2 AB93M13C3 AB94M13C4 AB95M13C5 AB96M13C6 AB97M13C7 AB98M13C8 AB99M13C9 AB9AM13CA
AB9BM13CB AB9CM13CC AB9DM13CD AB9EM13CE AB9FM13CF ABA0M13D0 ABA1M13D1 ABA2M13D2 ABA3M13D3
ABA4M13D4 ABA5M13D5 ABA6M13D6 ABA7M13D7 ABA8M13D8 ABA9M13D9 ABAAM13DA ABABM13DB ABACM13DC
ABADM13DD ABAEM13DE ABAFM13DF ABB0M13E0 ABB1M13E1 ABB2M13E2 ABB3M13E3 ABB4M13E4 ABB5M13E5
ABB6M13E6 ABB7M13E7 ABB8M13E8 ABB9M13E9 ABBAM13EA ABBBM13EB ABBCM13EC ABBDM13ED ABBEM13EE
ABBFM13EF ABC0V ABEEX ABF0V ABFAX AC00V D7A4X D7B0V D7C7X D7CBV D7FCX F900M8C48 F901M66F4
F902M8ECA F903M8CC8 F904M6ED1 F905M4E32 F906M53E5 F907M9F9C F909M5951 F90AM91D1 F90BM5587
F90CM5948 F90DM61F6 F90EM7669 F90FM7F85 F910M863F F911M87BA F912M88F8 F913M908F F914M6A02
F915M6D1B F916M70D9 F917M73DE F918M843D F919M916A F91AM99F1 F91BM4E82 F91CM5375 F91DM6B04
F91EM721B F91FM862D F920M9E1E F921M5D50 F922M6FEB F923M85CD F924M8964 F925M62C9 F926M81D8
F927M881F F928M5ECA F929M6717 F92AM6D6A F92BM72FC F92CM90CE F92DM4F86 F92EM51B7 F92FM52DE
F930M64C4 F931M6AD3 F932M7210 F933M76E7 F934M8001 F935M8606 F936M865C F937M8DEF F938M9732
F939M9B6F F93AM9DFA F93BM788C F93CM797F F93DM7DA0 F93EM83C9 F93FM9304 F940M9E7F F941M8AD6
F942M58DF F943M5F04 F944M7C60 F945M807E F946M7262 F947M78CA F948M8CC2 F949M96F7 F94AM58D8
F94BM5C62 F94CM6A13 F94DM6DDA F94EM6F0F F94FM7D2F F950M7E37 F951M964B F952M52D2 F953M808B
F954M51DC F955M51CC F956M7A1C F957M7DBE F958M83F1 F959M9675 F95AM8B80 F95BM62CF F95CM6A02
F95DM8AFE F95EM4E39 F95FM5BE7 F960M6012 F961M7387 F962M7570 F963M5317 F964M78FB F965M4FBF
F966M5FA9 F967M4E0D F968M6CCC F969M6578 F96AM7D22 F96BM53C3 F96CM585E F96DM7701 F96EM8449
F96FM8AAA F970M6BBA F971M8FB0 F972M6C88 F973M62FE F974M82E5 F975M63A0 F976M7565 F977M4EAE
F978M5169 F979M51C9 F97AM6881 F97BM7CE7 F97CM826F F97DM8AD2 F97EM91CF F97FM52F5 F980M5442
F981M5973 F982M5EEC F983M65C5 F984M6FFE F985M792A F986M95AD F987M9A6A F988M9E97 F989M9ECE
F98AM529B F98BM66C6 F98CM6B77 F98DM8F62 F98EM5E74 F98FM6190 F990M6200 F991M649A F992M6F23
F993M7149 F994M7489 F995M79CA F996M7DF4 F997M806F F998M8F26 F999M84EE F99AM9023 F99BM934A
F99CM5217 F99DM52A3 F99EM54BD F99FM70C8 F9A0M88C2 F9A1M8AAA F9A2M5EC9 F9A3M5FF5 F9A4M637B
F9A5M6BAE F9A6M7C3E F9A7M7375 F9A8M4EE4 F9A9M56F9 F9AAM5BE7 F9ABM5DBA F9ACM601C F9ADM73B2
F9AEM7469 F9AFM7F9A F9B0M8046 F9B1M9234 F9B2M96F6 F9B3M9748 F9B4M9818 F9B5M4F8B F9B6M79AE
F9B7M91B4 F9B8M96B8 F9B9M60E1 F9BAM4E86 F9BBM50DA F9BCM5BEE F9BDM5C3F F9BEM6599 F9BFM6A02
F9C0M71CE F9C1M7642 F9C2M84FC F9C3M907C F9C4M9F8D F9C5M6688 F9C6M962E F9C7M5289 F9C8M677B
F9C9M67F3 F9CAM6D41 F9CBM6E9C F9CCM7409 F9CDM7559 F9CEM786B F9CFM7D10 F9D0M985E F9D1M516D
F9D2M622E F9D3M9678 F9D4M502B F9D5M5D19 F9D6M6DEA F9D7M8F2A F9D8M5F8B F9D9M6144 F9DAM6817
F9DBM7387 F9DCM9686 F9DDM5229 F9DEM540F F9DFM5C65 F9E0M6613 F9E1M674E F9E2M68A8 F9E3M6CE5
F9E4M7406 F9E5M75E2 F9E6M7F79 F9E7M88CF F9E8M88E1 F9E9M91CC F9EAM96E2 F9EBM533F F9ECM6EBA
F9EDM541D F9EEM71D0 F9EFM7498 F9F0M85FA F9F1M96A3 F9F2M9C57 F9F3M9E9F F9F4M6797 F9F5M6DCB
F9F6M81E8 F9F7M7ACB F9F8M7B20 F9F9M7C92 F9FAM72C0 F9FBM7099 F9FCM8B58 F9FDM4EC0 F9FEM8336
F9FFM523A FA00M5207 FA01M5EA6 FA02M62D3 FA03M7CD6 FA04M5B85 FA05M6D1E FA06M66B4 FA07M8F3B
FA08M884C FA09M964D FA0AM898B FA0BM5ED3 FA0CM5140 FA0DM55C0 FA0EV FA10M585A FA11V FA12M6674
FA13V FA15M51DE FA16M732A FA17M76CA FA18M793C FA19M795E FA1AM7965 FA1BM798F FA1CM9756 FA1DM7CBE
FA1EM7FBD FA1FV FA20M8612 FA21V FA22M8AF8 FA23V FA25M9038 FA26M90FD FA27V FA2AM98EF FA2BM98FC
FA2CM9928 FA2DM9DB4 FA2EM90DE FA2FM96B7 FA30M4FAE FA31M50E7 FA32M514D FA33M52C9 FA34M52E4
FA35M5351 FA36M559D FA37M5606 FA38M5668 FA39M5840 FA3AM58A8 FA3BM5C64 FA3CM5C6E FA3DM6094
FA3EM6168 FA3FM618E FA40M61F2 FA41M654F FA42M65E2 FA43M6691 FA44M6885 FA45M6D77 FA46M6E1A
FA47M6F22 FA48M716E FA49M722B FA4AM7422 FA4BM7891 FA4CM793E FA4DM7949 FA4EM7948 FA4FM7950
FA50M7956 FA51M795D FA52M798D FA53M798E FA54M7A40 FA55M7A81 FA56M7BC0 FA57M7DF4 FA58M7E09
FA59M7E41 FA5AM7F72 FA5BM8005 FA5CM81ED FA5DM8279 FA5FM8457 FA60M8910 FA61M8996 FA62M8B01
FA63M8B39 FA64M8CD3 FA65M8D08 FA66M8FB6 FA67M9038 FA68M96E3 FA69M97FF FA6AM983B FA6BM6075
FA6CM242EE FA6DM8218 FA6EX FA70M4E26 FA71M51B5 FA72M5168 FA73M4F80 FA74M5145 FA75M5180 FA76M52C7
FA77M52FA FA78M559D FA79M5555 FA7AM5599 FA7BM55E2 FA7CM585A FA7DM58B3 FA7EM5944 FA7FM5954
FA80M5A62 FA81M5B28 FA82M5ED2 FA83M5ED9 FA84M5F69 FA85M5FAD FA86M60D8 FA87M614E FA88M6108
FA89M618E FA8AM6160 FA8BM61F2 FA8CM6234 FA8DM63C4 FA8EM641C FA8FM6452 FA90M6556 FA91M6674
FA92M6717 FA93M671B FA94M6756 FA95M6B79 FA96M6BBA FA97M6D41 FA98M6EDB FA99M6ECB FA9AM6F22
FA9BM701E FA9CM716E FA9DM77A7 FA9EM7235 FA9FM72AF FAA0M732A FAA1M7471 FAA2M7506 FAA3M753B
FAA4M761D FAA5M761F FAA6M76CA FAA7M76DB FAA8M76F4 FAA9M774A FAAAM7740 FAABM78CC FAACM7AB1
FAADM7BC0 FAAEM7C7B FAAFM7D5B FAB0M7DF4 FAB1M7F3E FAB2M8005 FAB3M8352 FAB4M83EF FAB5M8779
FAB6M8941 FAB7M8986 FAB8M8996 FAB9M8ABF FABAM8AF8 FABBM8ACB FABCM8B01 FABDM8AFE FABEM8AED
FABFM8B39 FAC0M8B8A FAC1M8D08 FAC2M8F38 FAC3M9072 FAC4M9199 FAC5M9276 FAC6M967C FAC7M96E3
FAC8M9756 FAC9M97DB FACAM97FF FACBM980B FACCM983B FACDM9B12 FACEM9F9C FACFM2284A FAD0M22844
FAD1M233D5 FAD2M3B9D FAD3M4018 FAD4M4039 FAD5M25249 FAD6M25CD0 FAD7M27ED3 FAD8M9F43 FAD9M9F8E
FADAX FB00M66,66 FB01M66,69 FB02M66,6C FB03M66,66,69 FB04M66,66,6C FB05M73,74 FB07X FB13M574,576
FB14M574,565 FB15M574,56B FB16M57E,576 FB17M574,56D FB18X FB1DM5D9,5B4 FB1EV FB1FM5F2,5B7
FB20M5E2 FB21M5D0 FB22M5D3 FB23M5D4 FB24M5DB FB25M5DC FB26M5DD FB27M5E8 FB28M5EA FB29M2B
FB2AM5E9,5C1 FB2BM5E9,5C2 FB2CM5E9,5BC,5C1 FB2DM5E9,5BC,5C2 FB2EM5D0,5B7 FB2FM5D0,5B8
FB30M5D0,5BC FB31M5D1,5BC FB32M5D2,5BC FB33M5D3,5BC FB34M5D4,5BC FB35M5D5,5BC FB36M5D6,5BC FB37X
FB38M5D8,5BC FB39M5D9,5BC FB3AM5DA,5BC FB3BM5DB,5BC FB3CM5DC,5BC FB3DX FB3EM5DE,5BC FB3FX
FB40M5E0,5BC FB41M5E1,5BC FB42X FB43M5E3,5BC FB44M5E4,5BC FB45X FB46M5E6,5BC FB47M5E7,5BC
FB48M5E8,5BC FB49M5E9,5BC FB4AM5EA,5BC FB4BM5D5,5B9 FB4CM5D1,5BF FB4DM5DB,5BF FB4EM5E4,5BF
FB4FM5D0,5DC FB50M671 FB52M67B FB56M67E FB5AM680 FB5EM67A FB62M67F FB66M679 FB6AM6A4 FB6EM6A6
FB72M684 FB76M683 FB7AM686 FB7EM687 FB82M68D FB84M68C FB86M68E FB88M688 FB8AM698 FB8CM691
FB8EM6A9 FB92M6AF FB96M6B3 FB9AM6B1 FB9EM6BA FBA0M6BB FBA4M6C0 FBA6M6C1 FBAAM6BE FBAEM6D2
FBB0M6D3 FBB2V FBD3M6AD FBD7M6C7 FBD9M6C6 FBDBM6C8 FBDDM6C7,674 FBDEM6CB FBE0M6C5 FBE2M6C9
FBE4M6D0 FBE8M649 FBEAM626,627 FBECM626,6D5 FBEEM626,648 FBF0M626,6C7 FBF2M626,6C6 FBF4M626,6C8
FBF6M626,6D0 FBF9M626,649 FBFCM6CC FC00M626,62C FC01M626,62D FC02M626,645 FC03M626,649
FC04M626,64A FC05M628,62C FC06M628,62D FC07M628,62E FC08M628,645 FC09M628,649 FC0AM628,64A
FC0BM62A,62C FC0CM62A,62D FC0DM62A,62E FC0EM62A,645 FC0FM62A,649 FC10M62A,64A FC11M62B,62C
FC12M62B,645 FC13M62B,649 FC14M62B,64A FC15M62C,62D FC16M62C,645 FC17M62D,62C FC18M62D,645
FC19M62E,62C FC1AM62E,62D FC1BM62E,645 FC1CM633,62C FC1DM633,62D FC1EM633,62E FC1FM633,645
FC20M635,62D FC21M635,645 FC22M636,62C FC23M636,62D FC24M636,62E FC25M636,645 FC26M637,62D
FC27M637,645 FC28M638,645 FC29M639,62C FC2AM639,645 FC2BM63A,62C FC2CM63A,645 FC2DM641,62C
FC2EM641,62D FC2FM641,62E FC30M641,645 FC31M641,649 FC32M641,64A FC33M642,62D FC34M642,645
FC35M642,649 FC36M642,64A FC37M643,627 FC38M643,62C FC39M643,62D FC3AM643,62E FC3BM643,644
FC3CM643,645 FC3DM643,649 FC3EM643,64A FC3FM644,62C FC40M644,62D FC41M644,62E FC42M644,645
FC43M644,649 FC44M644,64A FC45M645,62C FC46M645,62D FC47M645,62E FC48M645,645 FC49M645,649
FC4AM645,64A FC4BM646,62C FC4CM646,62D FC4DM646,62E FC4EM646,645 FC4FM646,649 FC50M646,64A
FC51M647,62C FC52M647,645 FC53M647,649 FC54M647,64A FC55M64A,62C FC56M64A,62D FC57M64A,62E
FC58M64A,645 FC59M64A,649 FC5AM64A,64A FC5BM630,670 FC5CM631,670 FC5DM649,670 FC5EM20,64C,651
FC5FM20,64D,651 FC60M20,64E,651 FC61M20,64F,651 FC62M20,650,651 FC63M20,651,670 FC64M626,631
FC65M626,632 FC66M626,645 FC67M626,646 FC68M626,649 FC69M626,64A FC6AM628,631 FC6BM628,632
FC6CM628,645 FC6DM628,646 FC6EM628,649 FC6FM628,64A FC70M62A,631 FC71M62A,632 FC72M62A,645
FC73M62A,646 FC74M62A,649 FC75M62A,64A FC76M62B,631 FC77M62B,632 FC78M62B,645 FC79M62B,646
FC7AM62B,649 FC7BM62B,64A FC7CM641,649 FC7DM641,64A FC7EM642,649 FC7FM642,64A FC80M643,627
FC81M643,644 FC82M643,645 FC83M643,649 FC84M643,64A FC85M644,645 FC86M644,649 FC87M644,64A
FC88M645,627 FC89M645,645 FC8AM646,631 FC8BM646,632 FC8CM646,645 FC8DM646,646 FC8EM646,649
FC8FM646,64A FC90M649,670 FC91M64A,631 FC92M64A,632 FC93M64A,645 FC94M64A,646 FC95M64A,649
FC96M64A,64A FC97M626,62C FC98M626,62D FC99M626,62E FC9AM626,645 FC9BM626,647 FC9CM628,62C
FC9DM628,62D FC9EM628,62E FC9FM628,645 FCA0M628,647 FCA1M62A,62C FCA2M62A,62D FCA3M62A,62E
FCA4M62A,645 FCA5M62A,647 FCA6M62B,645 FCA7M62C,62D FCA8M62C,645 FCA9M62D,62C FCAAM62D,645
FCABM62E,62C FCACM62E,645 FCADM633,62C FCAEM633,62D FCAFM633,62E FCB0M633,645 FCB1M635,62D
FCB2M635,62E FCB3M635,645 FCB4M636,62C FCB5M636,62D FCB6M636,62E FCB7M636,645 FCB8M637,62D
FCB9M638,645 FCBAM639,62C FCBBM639,645 FCBCM63A,62C FCBDM63A,645 FCBEM641,62C FCBFM641,62D
FCC0M641,62E FCC1M641,645 FCC2M642,62D FCC3M642,645 FCC4M643,62C FCC5M643,62D FCC6M643,62E
FCC7M643,644 FCC8M643,645 FCC9M644,62C FCCAM644,62D FCCBM644,62E FCCCM644,645 FCCDM644,647
FCCEM645,62C FCCFM645,62D FCD0M645,62E FCD1M645,645 FCD2M646,62C FCD3M646,62D FCD4M646,62E
FCD5M646,645 FCD6M646,647 FCD7M647,62C FCD8M647,645 FCD9M647,670 FCDAM64A,62C FCDBM64A,62D
FCDCM64A,62E FCDDM64A,645 FCDEM64A,647 FCDFM626,645 FCE0M626,647 FCE1M628,645 FCE2M628,647
FCE3M62A,645 FCE4M62A,647 FCE5M62B,645 FCE6M62B,647 FCE7M633,645 FCE8M633,647 FCE9M634,645
FCEAM634,647 FCEBM643,644 FCECM643,645 FCEDM644,645 FCEEM646,645 FCEFM646,647 FCF0M64A,645
FCF1M64A,647 FCF2M640,64E,651 FCF3M640,64F,651 FCF4M640,650,651 FCF5M637,649 FCF6M637,64A
FCF7M639,649 FCF8M639,64A FCF9M63A,649 FCFAM63A,64A FCFBM633,649 FCFCM633,64A FCFDM634,649
FCFEM634,64A FCFFM62D,649 FD00M62D,64A FD01M62C,649 FD02M62C,64A FD03M62E,649 FD04M62E,64A
FD05M635,649 FD06M635,64A FD07M636,649 FD08M636,64A FD09M634,62C FD0AM634,62D FD0BM634,62E
FD0CM634,645 FD0DM634,631 FD0EM633,631 FD0FM635,631 FD10M636,631 FD11M637,649 FD12M637,64A
FD13M639,649 FD14M639,64A FD15M63A,649 FD16M63A,64A FD17M633,649 FD18M633,64A FD19M634,649
FD1AM634,64A FD1BM62D,649 FD1CM62D,64A FD1DM62C,649 FD1EM62C,64A FD1FM62E,649 FD20M62E,64A
FD21M635,649 FD22M635,64A FD23M636,649 FD24M636,64A FD25M634,62C FD26M634,62D FD27M634,62E
FD28M634,645 FD29M634,631 FD2AM633,631 FD2BM635,631 FD2CM636,631 FD2DM634,62C FD2EM634,62D
FD2FM634,62E FD30M634,645 FD31M633,647 FD32M634,647 FD33M637,645 FD34M633,62C FD35M633,62D
FD36M633,62E FD37M634,62C FD38M634,62D FD39M634,62E FD3AM637,645 FD3BM638,645 FD3CM627,64B FD3EV
FD50M62A,62C,645 FD51M62A,62D,62C FD53M62A,62D,645 FD54M62A,62E,645 FD55M62A,645,62C
FD56M62A,645,62D FD57M62A,645,62E FD58M62C,645,62D FD5AM62D,645,64A FD5BM62D,645,649
FD5CM633,62D,62C FD5DM633,62C,62D FD5EM633,62C,649 FD5FM633,645,62D FD61M633,645,62C
FD62M633,645,645 FD64M635,62D,62D FD66M635,645,645 FD67M634,62D,645 FD69M634,62C,64A
FD6AM634,645,62E FD6CM634,645,645 FD6EM636,62D,649 FD6FM636,62E,645 FD71M637,645,62D
FD73M637,645,645 FD74M637,645,64A FD75M639,62C,645 FD76M639,645,645 FD78M639,645,649
FD79M63A,645,645 FD7AM63A,645,64A FD7BM63A,645,649 FD7CM641,62E,645 FD7EM642,645,62D
FD7FM642,645,645 FD80M644,62D,645 FD81M644,62D,64A FD82M644,62D,649 FD83M644,62C,62C
FD85M644,62E,645 FD87M644,645,62D FD89M645,62D,62C FD8AM645,62D,645 FD8BM645,62D,64A
FD8CM645,62C,62D FD8DM645,62C,645 FD8EM645,62E,62C FD8FM645,62E,645 FD90V FD92M645,62C,62E
FD93M647,645,62C FD94M647,645,645 FD95M646,62D,645 FD96M646,62D,649 FD97M646,62C,645
FD99M646,62C,649 FD9AM646,645,64A FD9BM646,645,649 FD9CM64A,645,645 FD9EM628,62E,64A
FD9FM62A,62C,64A FDA0M62A,62C,649 FDA1M62A,62E,64A FDA2M62A,62E,649 FDA3M62A,645,64A
FDA4M62A,645,649 FDA5M62C,645,64A FDA6M62C,62D,649 FDA7M62C,645,649 FDA8M633,62E,649
FDA9M635,62D,64A FDAAM634,62D,64A FDABM636,62D,64A FDACM644,62C,64A FDADM644,645,64A
FDAEM64A,62D,64A FDAFM64A,62C,64A FDB0M64A,645,64A FDB1M645,645,64A FDB2M642,645,64A
FDB3M646,62D,64A FDB4M642,645,62D FDB5M644,62D,645 FDB6M639,645,64A FDB7M643,645,64A
FDB8M646,62C,62D FDB9M645,62E,64A FDBAM644,62C,645 FDBBM643,645,645 FDBCM644,62C,645
FDBDM646,62C,62D FDBEM62C,62D,64A FDBFM62D,62C,64A FDC0M645,62C,64A FDC1M641,645,64A
FDC2M628,62D,64A FDC3M643,645,645 FDC4M639,62C,645 FDC5M635,645,645 FDC6M633,62E,64A
FDC7M646,62C,64A FDC8V FDD0X FDF0M635,644,6D2 FDF1M642,644,6D2 FDF2M627,644,644,647
FDF3M627,643,628,631 FDF4M645,62D,645,62F FDF5M635,644,639,645 FDF6M631,633,648,644
FDF7M639,644,64A,647 FDF8M648,633,644,645 FDF9M635,644,649
FDFAM635,644,649,20,627,644,644,647,20,639,644,64A,647,20,648,633,644,645
FDFBM62C,644,20,62C,644,627,644,647 FDFCM631,6CC,627,644 FDFDV FE00I FE10M2C FE11M3001 FE12X
FE13M3A FE14M3B FE15M21 FE16M3F FE17M3016 FE18M3017 FE19X FE20V FE30X FE31M2014 FE32M2013
FE33M5F FE35M28 FE36M29 FE37M7B FE38M7D FE39M3014 FE3AM3015 FE3BM3010 FE3CM3011 FE3DM300A
FE3EM300B FE3FM3008 FE40M3009 FE41M300C FE42M300D FE43M300E FE44M300F FE45V FE47M5B FE48M5D
FE49M20,305 FE4DM5F FE50M2C FE51M3001 FE52X FE54M3B FE55M3A FE56M3F FE57M21 FE58M2014 FE59M28
FE5AM29 FE5BM7B FE5CM7D FE5DM3014 FE5EM3015 FE5FM23 FE60M26 FE61M2A FE62M2B FE63M2D FE64M3C
FE65M3E FE66M3D FE67X FE68M5C FE69M24 FE6AM25 FE6BM40 FE6CX FE70M20,64B FE71M640,64B FE72M20,64C
FE73V FE74M20,64D FE75X FE76M20,64E FE77M640,64E FE78M20,64F FE79M640,64F FE7AM20,650
FE7BM640,650 FE7CM20,651 FE7DM640,651 FE7EM20,652 FE7FM640,652 FE80M621 FE81M622 FE83M623
FE85M624 FE87M625 FE89M626 FE8DM627 FE8FM628 FE93M629 FE95M62A FE99M62B FE9DM62C FEA1M62D
FEA5M62E FEA9M62F FEABM630 FEADM631 FEAFM632 FEB1M633 FEB5M634 FEB9M635 FEBDM636 FEC1M637
FEC5M638 FEC9M639 FECDM63A FED1M641 FED5M642 FED9M643 FEDDM644 FEE1M645 FEE5M646 FEE9M647
FEEDM648 FEEFM649 FEF1M64A FEF5M644,622 FEF7M644,623 FEF9M644,625 FEFBM644,627 FEFDX FEFFI FF00X
FF01M21 FF02M22 FF03M23 FF04M24 FF05M25 FF06M26 FF07M27 FF08M28 FF09M29 FF0AM2A FF0BM2B FF0CM2C
FF0DM2D FF0EM2E FF0FM2F FF10M30 FF11M31 FF12M32 FF13M33 FF14M34 FF15M35 FF16M36 FF17M37 FF18M38
FF19M39 FF1AM3A FF1BM3B FF1CM3C FF1DM3D FF1EM3E FF1FM3F FF20M40 FF21M61 FF22M62 FF23M63 FF24M64
FF25M65 FF26M66 FF27M67 FF28M68 FF29M69 FF2AM6A FF2BM6B FF2CM6C FF2DM6D FF2EM6E FF2FM6F FF30M70
FF31M71 FF32M72 FF33M73 FF34M74 FF35M75 FF36M76 FF37M77 FF38M78 FF39M79 FF3AM7A FF3BM5B FF3CM5C
FF3DM5D FF3EM5E FF3FM5F FF40M60 FF41M61 FF42M62 FF43M63 FF44M64 FF45M65 FF46M66 FF47M67 FF48M68
FF49M69 FF4AM6A FF4BM6B FF4CM6C FF4DM6D FF4EM6E FF4FM6F FF50M70 FF51M71 FF52M72 FF53M73 FF54M74
FF55M75 FF56M76 FF57M77 FF58M78 FF59M79 FF5AM7A FF5BM7B FF5CM7C FF5DM7D FF5EM7E FF5FM2985
FF60M2986 FF61M2E FF62M300C FF63M300D FF64M3001 FF65M30FB FF66M30F2 FF67M30A1 FF68M30A3
FF69M30A5 FF6AM30A7 FF6BM30A9 FF6CM30E3 FF6DM30E5 FF6EM30E7 FF6FM30C3 FF70M30FC FF71M30A2
FF72M30A4 FF73M30A6 FF74M30A8 FF75M30AA FF76M30AB FF77M30AD FF78M30AF FF79M30B1 FF7AM30B3
FF7BM30B5 FF7CM30B7 FF7DM30B9 FF7EM30BB FF7FM30BD FF80M30BF FF81M30C1 FF82M30C4 FF83M30C6
FF84M30C8 FF85M30CA FF86M30CB FF87M30CC FF88M30CD FF89M30CE FF8AM30CF FF8BM30D2 FF8CM30D5
FF8DM30D8 FF8EM30DB FF8FM30DE FF90M30DF FF91M30E0 FF92M30E1 FF93M30E2 FF94M30E4 FF95M30E6
FF96M30E8 FF97M30E9 FF98M30EA FF99M30EB FF9AM30EC FF9BM30ED FF9CM30EF FF9DM30F3 FF9EM3099
FF9FM309A FFA0I FFA1M1100 FFA2M1101 FFA3M11AA FFA4M1102 FFA5M11AC FFA6M11AD FFA7M1103 FFA8M1104
FFA9M1105 FFAAM11B0 FFABM11B1 FFACM11B2 FFADM11B3 FFAEM11B4 FFAFM11B5 FFB0M111A FFB1M1106
FFB2M1107 FFB3M1108 FFB4M1121 FFB5M1109 FFB6M110A FFB7M110B FFB8M110C FFB9M110D FFBAM110E
FFBBM110F FFBCM1110 FFBDM1111 FFBEM1112 FFBFX FFC2M1161 FFC3M1162 FFC4M1163 FFC5M1164 FFC6M1165
FFC7M1166 FFC8X FFCAM1167 FFCBM1168 FFCCM1169 FFCDM116A FFCEM116B FFCFM116C FFD0X FFD2M116D
FFD3M116E FFD4M116F FFD5M1170 FFD6M1171 FFD7M1172 FFD8X FFDAM1173 FFDBM1174 FFDCM1175 FFDDX
FFE0MA2 FFE1MA3 FFE2MAC FFE3M20,304 FFE4MA6 FFE5MA5 FFE6M20A9 FFE7X FFE8M2502 FFE9M2190
FFEAM2191 FFEBM2192 FFECM2193 FFEDM25A0 FFEEM25CB FFEFX 10000V 1000CX 1000DV 10027X 10028V
1003BX 1003CV 1003EX 1003FV 1004EX 10050V 1005EX 10080V 100FBX 10100V 10103X 10107V 10134X
10137V 1018FX 10190V 1019DX 101A0V 101A1X 101D0V 101FEX 10280V 1029DX 102A0V 102D1X 102E0V
102FCX 10300V 10324X 1032DV 1034BX 10350V 1037BX 10380V 1039EX 1039FV 103C4X 103C8V 103D6X
10400M10428 10401M10429 10402M1042A 10403M1042B 10404M1042C 10405M1042D 10406M1042E 10407M1042F
10408M10430 10409M10431 1040AM10432 1040BM10433 1040CM10434 1040DM10435 1040EM10436 1040FM10437
10410M10438 10411M10439 10412M1043A 10413M1043B 10414M1043C 10415M1043D 10416M1043E 10417M1043F
10418M10440 10419M10441 1041AM10442 1041BM10443 1041CM10444 1041DM10445 1041EM10446 1041FM10447
10420M10448 10421M10449 10422M1044A 10423M1044B 10424M1044C 10425M1044D 10426M1044E 10427M1044F
10428V 1049EX 104A0V 104AAX 104B0M104D8 104B1M104D9 104B2M104DA 104B3M104DB 104B4M104DC
104B5M104DD 104B6M104DE 104B7M104DF 104B8M104E0 104B9M104E1 104BAM104E2 104BBM104E3 104BCM104E4
104BDM104E5 104BEM104E6 104BFM104E7 104C0M104E8 104C1M104E9 104C2M104EA 104C3M104EB 104C4M104EC
104C5M104ED 104C6M104EE 104C7M104EF 104C8M104F0 104C9M104F1 104CAM104F2 104CBM104F3 104CCM104F4
104CDM104F5 104CEM104F6 104CFM104F7 104D0M104F8 104D1M104F9 104D2M104FA 104D3M104FB 104D4X
104D8V 104FCX 10500V 10528X 10530V 10564X 1056FV 10570M10597 10571M10598 10572M10599 10573M1059A
10574M1059B 10575M1059C 10576M1059D 10577M1059E 10578M1059F 10579M105A0 1057AM105A1 1057BX
1057CM105A3 1057DM105A4 1057EM105A5 1057FM105A6 10580M105A7 10581M105A8 10582M105A9 10583M105AA
10584M105AB 10585M105AC 10586M105AD 10587M105AE 10588M105AF 10589M105B0 1058AM105B1 1058BX
1058CM105B3 1058DM105B4 1058EM105B5 1058FM105B6 10590M105B7 10591M105B8 10592M105B9 10593X
10594M105BB 10595M105BC 10596X 10597V 105A2X 105A3V 105B2X 105B3V 105BAX 105BBV 105BDX 105C0V
105F4X 10600V 10737X 10740V 10756X 10760V 10768X 10780V 10781M2D0 10782M2D1 10783ME6 10784M299
10785M253 10786X 10787M2A3 10788MAB66 10789M2A5 1078AM2A4 1078BM256 1078CM257 1078DM1D91
1078EM258 1078FM25E 10790M2A9 10791M264 10792M262 10793M260 10794M29B 10795M127 10796M29C
10797M267 10798M284 10799M2AA 1079AM2AB 1079BM26C 1079CM1DF04 1079DMA78E 1079EM26E 1079FM1DF05
107A0M28E 107A1M1DF06 107A2MF8 107A3M276 107A4M277 107A5M71 107A6M27A 107A7M1DF08 107A8M27D
107A9M27E 107AAM280 107ABM2A8 107ACM2A6 107ADMAB67 107AEM2A7 107AFM288 107B0M2C71 107B1X
107B2M28F 107B3M2A1 107B4M2A2 107B5M298 107B6M1C0 107B7M1C1 107B8M1C2 107B9M1DF0A 107BAM1DF1E
107BBX 10800V 10806X 10808V 10809X 1080AV 10836X 10837V 10839X 1083CV 1083DX 1083FV 10856X
10857V 1089FX 108A7V 108B0X 108E0V 108F3X 108F4V 108F6X 108FBV 1091CX 1091FV 1093AX 1093FV
1095AX 10980V 109B8X 109BCV 109D0X 109D2V 10A04X 10A05V 10A07X 10A0CV 10A14X 10A15V 10A18X
10A19V 10A36X 10A38V 10A3BX 10A3FV 10A49X 10A50V 10A59X 10A60V 10AA0X 10AC0V 10AE7X 10AEBV
10AF7X 10B00V 10B36X 10B39V 10B56X 10B58V 10B73X 10B78V 10B92X 10B99V 10B9DX 10BA9V 10BB0X
10C00V 10C49X 10C80M10CC0 10C81M10CC1 10C82M10CC2 10C83M10CC3 10C84M10CC4 10C85M10CC5
10C86M10CC6 10C87M10CC7 10C88M10CC8 10C89M10CC9 10C8AM10CCA 10C8BM10CCB 10C8CM10CCC 10C8DM10CCD
10C8EM10CCE 10C8FM10CCF 10C90M10CD0 10C91M10CD1 10C92M10CD2 10C93M10CD3 10C94M10CD4 10C95M10CD5
10C96M10CD6 10C97M10CD7 10C98M10CD8 10C99M10CD9 10C9AM10CDA 10C9BM10CDB 10C9CM10CDC 10C9DM10CDD
10C9EM10CDE 10C9FM10CDF 10CA0M10CE0 10CA1M10CE1 10CA2M10CE2 10CA3M10CE3 10CA4M10CE4 10CA5M10CE5
10CA6M10CE6 10CA7M10CE7 10CA8M10CE8 10CA9M10CE9 10CAAM10CEA 10CABM10CEB 10CACM10CEC 10CADM10CED
10CAEM10CEE 10CAFM10CEF 10CB0M10CF0 10CB1M10CF1 10CB2M10CF2 10CB3X 10CC0V 10CF3X 10CFAV 10D28X
10D30V 10D3AX 10D40V 10D50M10D70 10D51M10D71 10D52M10D72 10D53M10D73 10D54M10D74 10D55M10D75
10D56M10D76 10D57M10D77 10D58M10D78 10D59M10D79 10D5AM10D7A 10D5BM10D7B 10D5CM10D7C 10D5DM10D7D
10D5EM10D7E 10D5FM10D7F 10D60M10D80 10D61M10D81 10D62M10D82 10D63M10D83 10D64M10D84 10D65M10D85
10D66X 10D69V 10D86X 10D8EV 10D90X 10E60V 10E7FX 10E80V 10EAAX 10EABV 10EAEX 10EB0V 10EB2X
10EC2V 10EC8X 10ED0V 10ED9X 10EFAV 10F28X 10F30V 10F5AX 10F70V 10F8AX 10FB0V 10FCCX 10FE0V
10FF7X 11000V 1104EX 11052V 11076X 1107FV 110BDX 110BEV 110C3X 110D0V 110E9X 110F0V 110FAX
11100V 11135X 11136V 11148X 11150V 11177X 11180V 111E0X 111E1V 111F5X 11200V 11212X 11213V
11242X 11280V 11287X 11288V 11289X 1128AV 1128EX 1128FV 1129EX 1129FV 112AAX 112B0V 112EBX
112F0V 112FAX 11300V 11304X 11305V 1130DX 1130FV 11311X 11313V 11329X 1132AV 11331X 11332V
11334X 11335V 1133AX 1133BV 11345X 11347V 11349X 1134BV 1134EX 11350V 11351X 11357V 11358X
1135DV 11364X 11366V 1136DX 11370V 11375X 11380V 1138AX 1138BV 1138CX 1138EV 1138FX 11390V
113B6X 113B7V 113C1X 113C2V 113C3X 113C5V 113C6X 113C7V 113CBX 113CCV 113D6X 113D7V 113D9X
113E1V 113E3X 11400V 1145CX 1145DV 11462X 11480V 114C8X 114D0V 114DAX 11580V 115B6X 115B8V
115DEX 11600V 11645X 11650V 1165AX 11660V 1166DX 11680V 116BAX 116C0V 116CAX 116D0V 116E4X
11700V 1171BX 1171DV 1172CX 11730V 11747X 11800V 1183CX 118A0M118C0 118A1M118C1 118A2M118C2
118A3M118C3 118A4M118C4 118A5M118C5 118A6M118C6 118A7M118C7 118A8M118C8 118A9M118C9 118AAM118CA
118ABM118CB 118ACM118CC 118ADM118CD 118AEM118CE 118AFM118CF 118B0M118D0 118B1M118D1 118B2M118D2
118B3M118D3 118B4M118D4 118B5M118D5 118B6M118D6 118B7M118D7 118B8M118D8 118B9M118D9 118BAM118DA
118BBM118DB 118BCM118DC 118BDM118DD 118BEM118DE 118BFM118DF 118C0V 118F3X 118FFV 11907X 11909V
1190AX 1190CV 11914X 11915V 11917X 11918V 11936X 11937V 11939X 1193BV 11947X 11950V 1195AX
119A0V 119A8X 119AAV 119D8X 119DAV 119E5X 11A00V 11A48X 11A50V 11AA3X 11AB0V 11AF9X 11B00V
11B0AX 11B60V 11B68X 11BC0V 11BE2X 11BF0V 11BFAX 11C00V 11C09X 11C0AV 11C37X 11C38V 11C46X
11C50V 11C6DX 11C70V 11C90X 11C92V 11CA8X 11CA9V 11CB7X 11D00V 11D07X 11D08V 11D0AX 11D0BV
11D37X 11D3AV 11D3BX 11D3CV 11D3EX 11D3FV 11D48X 11D50V 11D5AX 11D60V 11D66X 11D67V 11D69X
11D6AV 11D8FX 11D90V 11D92X 11D93V 11D99X 11DA0V 11DAAX 11DB0V 11DDCX 11DE0V 11DEAX 11EE0V
11EF9X 11F00V 11F11X 11F12V 11F3BX 11F3EV 11F5BX 11FB0V 11FB1X 11FC0V 11FF2X 11FFFV 1239AX
12400V 1246FX 12470V 12475X 12480V 12544X 12F90V 12FF3X 13000V 13430X 13440V 13456X 13460V
143FBX 14400V 14647X 16100V 1613AX 16800V 16A39X 16A40V 16A5FX 16A60V 16A6AX 16A6EV 16ABFX
16AC0V 16ACAX 16AD0V 16AEEX 16AF0V 16AF6X 16B00V 16B46X 16B50V 16B5AX 16B5BV 16B62X 16B63V
16B78X 16B7DV 16B90X 16D40V 16D7AX 16E40M16E60 16E41M16E61 16E42M16E62 16E43M16E63 16E44M16E64
16E45M16E65 16E46M16E66 16E47M16E67 16E48M16E68 16E49M16E69 16E4AM16E6A 16E4BM16E6B 16E4CM16E6C
16E4DM16E6D 16E4EM16E6E 16E4FM16E6F 16E50M16E70 16E51M16E71 16E52M16E72 16E53M16E73 16E54M16E74
16E55M16E75 16E56M16E76 16E57M16E77 16E58M16E78 16E59M16E79 16E5AM16E7A 16E5BM16E7B 16E5CM16E7C
16E5DM16E7D 16E5EM16E7E 16E5FM16E7F 16E60V 16E9BX 16EA0M16EBB 16EA1M16EBC 16EA2M16EBD
16EA3M16EBE 16EA4M16EBF 16EA5M16EC0 16EA6M16EC1 16EA7M16EC2 16EA8M16EC3 16EA9M16EC4 16EAAM16EC5
16EABM16EC6 16EACM16EC7 16EADM16EC8 16EAEM16EC9 16EAFM16ECA 16EB0M16ECB 16EB1M16ECC 16EB2M16ECD
16EB3M16ECE 16EB4M16ECF 16EB5M16ED0 16EB6M16ED1 16EB7M16ED2 16EB8M16ED3 16EB9X 16EBBV 16ED4X
16F00V 16F4BX 16F4FV 16F88X 16F8FV 16FA0X 16FE0V 16FE5X 16FF0V 16FF7X 17000V 18CD6X 18CFFV
18D1FX 18D80V 18DF3X 1AFF0V 1AFF4X 1AFF5V 1AFFCX 1AFFDV 1AFFFX 1B000V 1B123X 1B132V 1B133X
1B150V 1B153X 1B155V 1B156X 1B164V 1B168X 1B170V 1B2FCX 1BC00V 1BC6BX 1BC70V 1BC7DX 1BC80V
1BC89X 1BC90V 1BC9AX 1BC9CV 1BCA0I 1BCA4X 1CC00V 1CCD6M61 1CCD7M62 1CCD8M63 1CCD9M64 1CCDAM65
1CCDBM66 1CCDCM67 1CCDDM68 1CCDEM69 1CCDFM6A 1CCE0M6B 1CCE1M6C 1CCE2M6D 1CCE3M6E 1CCE4M6F
1CCE5M70 1CCE6M71 1CCE7M72 1CCE8M73 1CCE9M74 1CCEAM75 1CCEBM76 1CCECM77 1CCEDM78 1CCEEM79
1CCEFM7A 1CCF0M30 1CCF1M31 1CCF2M32 1CCF3M33 1CCF4M34 1CCF5M35 1CCF6M36 1CCF7M37 1CCF8M38
1CCF9M39 1CCFAV 1CCFDX 1CD00V 1CEB4X 1CEBAV 1CED1X 1CEE0V 1CEF1X 1CF00V 1CF2EX 1CF30V 1CF47X
1CF50V 1CFC4X 1D000V 1D0F6X 1D100V 1D127X 1D129V 1D15EM1D157,1D165 1D15FM1D158,1D165
1D160M1D158,1D165,1D16E 1D161M1D158,1D165,1D16F 1D162M1D158,1D165,1D170 1D163M1D158,1D165,1D171
1D164M1D158,1D165,1D172 1D165V 1D173I 1D17BV 1D1BBM1D1B9,1D165 1D1BCM1D1BA,1D165
1D1BDM1D1B9,1D165,1D16E 1D1BEM1D1BA,1D165,1D16E 1D1BFM1D1B9,1D165,1D16F 1D1C0M1D1BA,1D165,1D16F
1D1C1V 1D1EBX 1D200V 1D246X 1D2C0V 1D2D4X 1D2E0V 1D2F4X 1D300V 1D357X 1D360V 1D379X 1D400M61
1D401M62 1D402M63 1D403M64 1D404M65 1D405M66 1D406M67 1D407M68 1D408M69 1D409M6A 1D40AM6B
1D40BM6C 1D40CM6D 1D40DM6E 1D40EM6F 1D40FM70 1D410M71 1D411M72 1D412M73 1D413M74 1D414M75
1D415M76 1D416M77 1D417M78 1D418M79 1D419M7A 1D41AM61 1D41BM62 1D41CM63 1D41DM64 1D41EM65
1D41FM66 1D420M67 1D421M68 1D422M69 1D423M6A 1D424M6B 1D425M6C 1D426M6D 1D427M6E 1D428M6F
1D429M70 1D42AM71 1D42BM72 1D42CM73 1D42DM74 1D42EM75 1D42FM76 1D430M77 1D431M78 1D432M79
1D433M7A 1D434M61 1D435M62 1D436M63 1D437M64 1D438M65 1D439M66 1D43AM67 1D43BM68 1D43CM69
1D43DM6A 1D43EM6B 1D43FM6C 1D440M6D 1D441M6E 1D442M6F 1D443M70 1D444M71 1D445M72 1D446M73
1D447M74 1D448M75 1D449M76 1D44AM77 1D44BM78 1D44CM79 1D44DM7A 1D44EM61 1D44FM62 1D450M63
1D451M64 1D452M65 1D453M66 1D454M67 1D455X 1D456M69 1D457M6A 1D458M6B 1D459M6C 1D45AM6D 1D45BM6E
1D45CM6F 1D45DM70 1D45EM71 1D45FM72 1D460M73 1D461M74 1D462M75 1D463M76 1D464M77 1D465M78
1D466M79 1D467M7A 1D468M61 1D469M62 1D46AM63 1D46BM64 1D46CM65 1D46DM66 1D46EM67 1D46FM68
1D470M69 1D471M6A 1D472M6B 1D473M6C 1D474M6D 1D475M6E 1D476M6F 1D477M70 1D478M71 1D479M72
1D47AM73 1D47BM74 1D47CM75 1D47DM76 1D47EM77 1D47FM78 1D480M79 1D481M7A 1D482M61 1D483M62
1D484M63 1D485M64 1D486M65 1D487M66 1D488M67 1D489M68 1D48AM69 1D48BM6A 1D48CM6B 1D48DM6C
1D48EM6D 1D48FM6E 1D490M6F 1D491M70 1D492M71 1D493M72 1D494M73 1D495M74 1D496M75 1D497M76
1D498M77 1D499M78 1D49AM79 1D49BM7A 1D49CM61 1D49DX 1D49EM63 1D49FM64 1D4A0X 1D4A2M67 1D4A3X
1D4A5M6A 1D4A6M6B 1D4A7X 1D4A9M6E 1D4AAM6F 1D4ABM70 1D4ACM71 1D4ADX 1D4AEM73 1D4AFM74 1D4B0M75
1D4B1M76 1D4B2M77 1D4B3M78 1D4B4M79 1D4B5M7A 1D4B6M61 1D4B7M62 1D4B8M63 1D4B9M64 1D4BAX 1D4BBM66
1D4BCX 1D4BDM68 1D4BEM69 1D4BFM6A 1D4C0M6B 1D4C1M6C 1D4C2M6D 1D4C3M6E 1D4C4X 1D4C5M70 1D4C6M71
1D4C7M72 1D4C8M73 1D4C9M74 1D4CAM75 1D4CBM76 1D4CCM77 1D4CDM78 1D4CEM79 1D4CFM7A 1D4D0M61
1D4D1M62 1D4D2M63 1D4D3M64 1D4D4M65 1D4D5M66 1D4D6M67 1D4D7M68 1D4D8M69 1D4D9M6A 1D4DAM6B
1D4DBM6C 1D4DCM6D 1D4DDM6E 1D4DEM6F 1D4DFM70 1D4E0M71 1D4E1M72 1D4E2M73 1D4E3M74 1D4E4M75
1D4E5M76 1D4E6M77 1D4E7M78 1D4E8M79 1D4E9M7A 1D4EAM61 1D4EBM62 1D4ECM63 1D4EDM64 1D4EEM65
1D4EFM66 1D4F0M67 1D4F1M68 1D4F2M69 1D4F3M6A 1D4F4M6B 1D4F5M6C 1D4F6M6D 1D4F7M6E 1D4F8M6F
1D4F9M70 1D4FAM71 1D4FBM72 1D4FCM73 1D4FDM74 1D4FEM75 1D4FFM76 1D500M77 1D501M78 1D502M79
1D503M7A 1D504M61 1D505M62 1D506X 1D507M64 1D508M65 1D509M66 1D50AM67 1D50BX 1D50DM6A 1D50EM6B
1D50FM6C 1D510M6D 1D511M6E 1D512M6F 1D513M70 1D514M71 1D515X 1D516M73 1D517M74 1D518M75 1D519M76
1D51AM77 1D51BM78 1D51CM79 1D51DX 1D51EM61 1D51FM62 1D520M63 1D521M64 1D522M65 1D523M66 1D524M67
1D525M68 1D526M69 1D527M6A 1D528M6B 1D529M6C 1D52AM6D 1D52BM6E 1D52CM6F 1D52DM70 1D52EM71
1D52FM72 1D530M73 1D531M74 1D532M75 1D533M76 1D534M77 1D535M78 1D536M79 1D537M7A 1D538M61
1D539M62 1D53AX 1D53BM64 1D53CM65 1D53DM66 1D53EM67 1D53FX 1D540M69 1D541M6A 1D542M6B 1D543M6C
1D544M6D 1D545X 1D546M6F 1D547X 1D54AM73 1D54BM74 1D54CM75 1D54DM76 1D54EM77 1D54FM78 1D550M79
1D551X 1D552M61 1D553M62 1D554M63 1D555M64 1D556M65 1D557M66 1D558M67 1D559M68 1D55AM69 1D55BM6A
1D55CM6B 1D55DM6C 1D55EM6D 1D55FM6E 1D560M6F 1D561M70 1D562M71 1D563M72 1D564M73 1D565M74
1D566M75 1D567M76 1D568M77 1D569M78 1D56AM79 1D56BM7A 1D56CM61 1D56DM62 1D56EM63 1D56FM64
1D570M65 1D571M66 1D572M67 1D573M68 1D574M69 1D575M6A 1D576M6B 1D577M6C 1D578M6D 1D579M6E
1D57AM6F 1D57BM70 1D57CM71 1D57DM72 1D57EM73 1D57FM74 1D580M75 1D581M76 1D582M77 1D583M78
1D584M79 1D585M7A 1D586M61 1D587M62 1D588M63 1D589M64 1D58AM65 1D58BM66 1D58CM67 1D58DM68
1D58EM69 1D58FM6A 1D590M6B 1D591M6C 1D592M6D 1D593M6E 1D594M6F 1D595M70 1D596M71 1D597M72
1D598M73 1D599M74 1D59AM75 1D59BM76 1D59CM77 1D59DM78 1D59EM79 1D59FM7A 1D5A0M61 1D5A1M62
1D5A2M63 1D5A3M64 1D5A4M65 1D5A5M66 1D5A6M67 1D5A7M68 1D5A8M69 1D5A9M6A 1D5AAM6B 1D5ABM6C
1D5ACM6D 1D5ADM6E 1D5AEM6F 1D5AFM70 1D5B0M71 1D5B1M72 1D5B2M73 1D5B3M74 1D5B4M75 1D5B5M76
1D5B6M77 1D5B7M78 1D5B8M79 1D5B9M7A 1D5BAM61 1D5BBM62 1D5BCM63 1D5BDM64 1D5BEM65 1D5BFM66
1D5C0M67 1D5C1M68 1D5C2M69 1D5C3M6A 1D5C4M6B 1D5C5M6C 1D5C6M6D 1D5C7M6E 1D5C8M6F 1D5C9M70
1D5CAM71 1D5CBM72 1D5CCM73 1D5CDM74 1D5CEM75 1D5CFM76 1D5D0M77 1D5D1M78 1D5D2M79 1D5D3M7A
1D5D4M61 1D5D5M62 1D5D6M63 1D5D7M64 1D5D8M65 1D5D9M66 1D5DAM67 1D5DBM68 1D5DCM69 1D5DDM6A
1D5DEM6B 1D5DFM6C 1D5E0M6D 1D5E1M6E 1D5E2M6F 1D5E3M70 1D5E4M71 1D5E5M72 1D5E6M73 1D5E7M74
1D5E8M75 1D5E9M76 1D5EAM77 1D5EBM78 1D5ECM79 1D5EDM7A 1D5EEM61 1D5EFM62 1D5F0M63 1D5F1M64
1D5F2M65 1D5F3M66 1D5F4M67 1D5F5M68 1D5F6M69 1D5F7M6A 1D5F8M6B 1D5F9M6C 1D5FAM6D 1D5FBM6E
1D5FCM6F 1D5FDM70 1D5FEM71 1D5FFM72 1D600M73 1D601M74 1D602M75 1D603M76 1D604M77 1D605M78
1D606M79 1D607M7A 1D608M61 1D609M62 1D60AM63 1D60BM64 1D60CM65 1D60DM66 1D60EM67 1D60FM68
1D610M69 1D611M6A 1D612M6B 1D613M6C 1D614M6D 1D615M6E 1D616M6F 1D617M70 1D618M71 1D619M72
1D61AM73 1D61BM74 1D61CM75 1D61DM76 1D61EM77 1D61FM78 1D620M79 1D621M7A 1D622M61 1D623M62
1D624M63 1D625M64 1D626M65 1D627M66 1D628M67 1D629M68 1D62AM69 1D62BM6A 1D62CM6B 1D62DM6C
1D62EM6D 1D62FM6E 1D630M6F 1D631M70 1D632M71 1D633M72 1D634M73 1D635M74 1D636M75 1D637M76
1D638M77 1D639M78 1D63AM79 1D63BM7A 1D63CM61 1D63DM62 1D63EM63 1D63FM64 1D640M65 1D641M66
1D642M67 1D643M68 1D644M69 1D645M6A 1D646M6B 1D647M6C 1D648M6D 1D649M6E 1D64AM6F 1D64BM70
1D64CM71 1D64DM72 1D64EM73 1D64FM74 1D650M75 1D651M76 1D652M77 1D653M78 1D654M79 1D655M7A
1D656M61 1D657M62 1D658M63 1D659M64 1D65AM65 1D65BM66 1D65CM67 1D65DM68 1D65EM69 1D65FM6A
1D660M6B 1D661M6C 1D662M6D 1D663M6E 1D664M6F 1D665M70 1D666M71 1D667M72 1D668M73 1D669M74
1D66AM75 1D66BM76 1D66CM77 1D66DM78 1D66EM79 1D66FM7A 1D670M61 1D671M62 1D672M63 1D673M64
1D674M65 1D675M66 1D676M67 1D677M68 1D678M69 1D679M6A 1D67AM6B 1D67BM6C 1D67CM6D 1D67DM6E
1D67EM6F 1D67FM70 1D680M71 1D681M72 1D682M73 1D683M74 1D684M75 1D685M76 1D686M77 1D687M78
1D688M79 1D689M7A 1D68AM61 1D68BM62 1D68CM63 1D68DM64 1D68EM65 1D68FM66 1D690M67 1D691M68
1D692M69 1D693M6A 1D694M6B 1D695M6C 1D696M6D 1D697M6E 1D698M6F 1D699M70 1D69AM71 1D69BM72
1D69CM73 1D69DM74 1D69EM75 1D69FM76 1D6A0M77 1D6A1M78 1D6A2M79 1D6A3M7A 1D6A4M131 1D6A5M237
1D6A6X 1D6A8M3B1 1D6A9M3B2 1D6AAM3B3 1D6ABM3B4 1D6ACM3B5 1D6ADM3B6 1D6AEM3B7 1D6AFM3B8 1D6B0M3B9
1D6B1M3BA 1D6B2M3BB 1D6B3M3BC 1D6B4M3BD 1D6B5M3BE 1D6B6M3BF 1D6B7M3C0 1D6B8M3C1 1D6B9M3B8
1D6BAM3C3 1D6BBM3C4 1D6BCM3C5 1D6BDM3C6 1D6BEM3C7 1D6BFM3C8 1D6C0M3C9 1D6C1M2207 1D6C2M3B1
1D6C3M3B2 1D6C4M3B3 1D6C5M3B4 1D6C6M3B5 1D6C7M3B6 1D6C8M3B7 1D6C9M3B8 1D6CAM3B9 1D6CBM3BA
1D6CCM3BB 1D6CDM3BC 1D6CEM3BD 1D6CFM3BE 1D6D0M3BF 1D6D1M3C0 1D6D2M3C1 1D6D3M3C3 1D6D5M3C4
1D6D6M3C5 1D6D7M3C6 1D6D8M3C7 1D6D9M3C8 1D6DAM3C9 1D6DBM2202 1D6DCM3B5 1D6DDM3B8 1D6DEM3BA
1D6DFM3C6 1D6E0M3C1 1D6E1M3C0 1D6E2M3B1 1D6E3M3B2 1D6E4M3B3 1D6E5M3B4 1D6E6M3B5 1D6E7M3B6
1D6E8M3B7 1D6E9M3B8 1D6EAM3B9 1D6EBM3BA 1D6ECM3BB 1D6EDM3BC 1D6EEM3BD 1D6EFM3BE 1D6F0M3BF
1D6F1M3C0 1D6F2M3C1 1D6F3M3B8 1D6F4M3C3 1D6F5M3C4 1D6F6M3C5 1D6F7M3C6 1D6F8M3C7 1D6F9M3C8
1D6FAM3C9 1D6FBM2207 1D6FCM3B1 1D6FDM3B2 1D6FEM3B3 1D6FFM3B4 1D700M3B5 1D701M3B6 1D702M3B7
1D703M3B8 1D704M3B9 1D705M3BA 1D706M3BB 1D707M3BC 1D708M3BD 1D709M3BE 1D70AM3BF 1D70BM3C0
1D70CM3C1 1D70DM3C3 1D70FM3C4 1D710M3C5 1D711M3C6 1D712M3C7 1D713M3C8 1D714M3C9 1D715M2202
1D716M3B5 1D717M3B8 1D718M3BA 1D719M3C6 1D71AM3C1 1D71BM3C0 1D71CM3B1 1D71DM3B2 1D71EM3B3
1D71FM3B4 1D720M3B5 1D721M3B6 1D722M3B7 1D723M3B8 1D724M3B9 1D725M3BA 1D726M3BB 1D727M3BC
1D728M3BD 1D729M3BE 1D72AM3BF 1D72BM3C0 1D72CM3C1 1D72DM3B8 1D72EM3C3 1D72FM3C4 1D730M3C5
1D731M3C6 1D732M3C7 1D733M3C8 1D734M3C9 1D735M2207 1D736M3B1 1D737M3B2 1D738M3B3 1D739M3B4
1D73AM3B5 1D73BM3B6 1D73CM3B7 1D73DM3B8 1D73EM3B9 1D73FM3BA 1D740M3BB 1D741M3BC 1D742M3BD
1D743M3BE 1D744M3BF 1D745M3C0 1D746M3C1 1D747M3C3 1D749M3C4 1D74AM3C5 1D74BM3C6 1D74CM3C7
1D74DM3C8 1D74EM3C9 1D74FM2202 1D750M3B5 1D751M3B8 1D752M3BA 1D753M3C6 1D754M3C1 1D755M3C0
1D756M3B1 1D757M3B2 1D758M3B3 1D759M3B4 1D75AM3B5 1D75BM3B6 1D75CM3B7 1D75DM3B8 1D75EM3B9
1D75FM3BA 1D760M3BB 1D761M3BC 1D762M3BD 1D763M3BE 1D764M3BF 1D765M3C0 1D766M3C1 1D767M3B8
1D768M3C3 1D769M3C4 1D76AM3C5 1D76BM3C6 1D76CM3C7 1D76DM3C8 1D76EM3C9 1D76FM2207 1D770M3B1
1D771M3B2 1D772M3B3 1D773M3B4 1D774M3B5 1D775M3B6 1D776M3B7 1D777M3B8 1D778M3B9 1D779M3BA
1D77AM3BB 1D77BM3BC 1D77CM3BD 1D77DM3BE 1D77EM3BF 1D77FM3C0 1D780M3C1 1D781M3C3 1D783M3C4
1D784M3C5 1D785M3C6 1D786M3C7 1D787M3C8 1D788M3C9 1D789M2202 1D78AM3B5 1D78BM3B8 1D78CM3BA
1D78DM3C6 1D78EM3C1 1D78FM3C0 1D790M3B1 1D791M3B2 1D792M3B3 1D793M3B4 1D794M3B5 1D795M3B6
1D796M3B7 1D797M3B8 1D798M3B9 1D799M3BA 1D79AM3BB 1D79BM3BC 1D79CM3BD 1D79DM3BE 1D79EM3BF
1D79FM3C0 1D7A0M3C1 1D7A1M3B8 1D7A2M3C3 1D7A3M3C4 1D7A4M3C5 1D7A5M3C6 1D7A6M3C7 1D7A7M3C8
1D7A8M3C9 1D7A9M2207 1D7AAM3B1 1D7ABM3B2 1D7ACM3B3 1D7ADM3B4 1D7AEM3B5 1D7AFM3B6 1D7B0M3B7
1D7B1M3B8 1D7B2M3B9 1D7B3M3BA 1D7B4M3BB 1D7B5M3BC 1D7B6M3BD 1D7B7M3BE 1D7B8M3BF 1D7B9M3C0
1D7BAM3C1 1D7BBM3C3 1D7BDM3C4 1D7BEM3C5 1D7BFM3C6 1D7C0M3C7 1D7C1M3C8 1D7C2M3C9 1D7C3M2202
1D7C4M3B5 1D7C5M3B8 1D7C6M3BA 1D7C7M3C6 1D7C8M3C1 1D7C9M3C0 1D7CAM3DD 1D7CCX 1D7CEM30 1D7CFM31
1D7D0M32 1D7D1M33 1D7D2M34 1D7D3M35 1D7D4M36 1D7D5M37 1D7D6M38 1D7D7M39 1D7D8M30 1D7D9M31
1D7DAM32 1D7DBM33 1D7DCM34 1D7DDM35 1D7DEM36 1D7DFM37 1D7E0M38 1D7E1M39 1D7E2M30 1D7E3M31
1D7E4M32 1D7E5M33 1D7E6M34 1D7E7M35 1D7E8M36 1D7E9M37 1D7EAM38 1D7EBM39 1D7ECM30 1D7EDM31
1D7EEM32 1D7EFM33 1D7F0M34 1D7F1M35 1D7F2M36 1D7F3M37 1D7F4M38 1D7F5M39 1D7F6M30 1D7F7M31
1D7F8M32 1D7F9M33 1D7FAM34 1D7FBM35 1D7FCM36 1D7FDM37 1D7FEM38 1D7FFM39 1D800V 1DA8CX 1DA9BV
1DAA0X 1DAA1V 1DAB0X 1DF00V 1DF1FX 1DF25V 1DF2BX 1E000V 1E007X 1E008V 1E019X 1E01BV 1E022X
1E023V 1E025X 1E026V 1E02BX 1E030M430 1E031M431 1E032M432 1E033M433 1E034M434 1E035M435
1E036M436 1E037M437 1E038M438 1E039M43A 1E03AM43B 1E03BM43C 1E03CM43E 1E03DM43F 1E03EM440
1E03FM441 1E040M442 1E041M443 1E042M444 1E043M445 1E044M446 1E045M447 1E046M448 1E047M44B
1E048M44D 1E049M44E 1E04AMA689 1E04BM4D9 1E04CM456 1E04DM458 1E04EM4E9 1E04FM4AF 1E050M4CF
1E051M430 1E052M431 1E053M432 1E054M433 1E055M434 1E056M435 1E057M436 1E058M437 1E059M438
1E05AM43A 1E05BM43B 1E05CM43E 1E05DM43F 1E05EM441 1E05FM443 1E060M444 1E061M445 1E062M446
1E063M447 1E064M448 1E065M44A 1E066M44B 1E067M491 1E068M456 1E069M455 1E06AM45F 1E06BM4AB
1E06CMA651 1E06DM4B1 1E06EX 1E08FV 1E090X 1E100V 1E12DX 1E130V 1E13EX 1E140V 1E14AX 1E14EV
1E150X 1E290V 1E2AFX 1E2C0V 1E2FAX 1E2FFV 1E300X 1E4D0V 1E4FAX 1E5D0V 1E5FBX 1E5FFV 1E600X
1E6C0V 1E6DFX 1E6E0V 1E6F6X 1E6FEV 1E700X 1E7E0V 1E7E7X 1E7E8V 1E7ECX 1E7EDV 1E7EFX 1E7F0V
1E7FFX 1E800V 1E8C5X 1E8C7V 1E8D7X 1E900M1E922 1E901M1E923 1E902M1E924 1E903M1E925 1E904M1E926
1E905M1E927 1E906M1E928 1E907M1E929 1E908M1E92A 1E909M1E92B 1E90AM1E92C 1E90BM1E92D 1E90CM1E92E
1E90DM1E92F 1E90EM1E930 1E90FM1E931 1E910M1E932 1E911M1E933 1E912M1E934 1E913M1E935 1E914M1E936
1E915M1E937 1E916M1E938 1E917M1E939 1E918M1E93A 1E919M1E93B 1E91AM1E93C 1E91BM1E93D 1E91CM1E93E
1E91DM1E93F 1E91EM1E940 1E91FM1E941 1E920M1E942 1E921M1E943 1E922V 1E94CX 1E950V 1E95AX 1E95EV
1E960X 1EC71V 1ECB5X 1ED01V 1ED3EX 1EE00M627 1EE01M628 1EE02M62C 1EE03M62F 1EE04X 1EE05M648
1EE06M632 1EE07M62D 1EE08M637 1EE09M64A 1EE0AM643 1EE0BM644 1EE0CM645 1EE0DM646 1EE0EM633
1EE0FM639 1EE10M641 1EE11M635 1EE12M642 1EE13M631 1EE14M634 1EE15M62A 1EE16M62B 1EE17M62E
1EE18M630 1EE19M636 1EE1AM638 1EE1BM63A 1EE1CM66E 1EE1DM6BA 1EE1EM6A1 1EE1FM66F 1EE20X 1EE21M628
1EE22M62C 1EE23X 1EE24M647 1EE25X 1EE27M62D 1EE28X 1EE29M64A 1EE2AM643 1EE2BM644 1EE2CM645
1EE2DM646 1EE2EM633 1EE2FM639 1EE30M641 1EE31M635 1EE32M642 1EE33X 1EE34M634 1EE35M62A 1EE36M62B
1EE37M62E 1EE38X 1EE39M636 1EE3AX 1EE3BM63A 1EE3CX 1EE42M62C 1EE43X 1EE47M62D 1EE48X 1EE49M64A
1EE4AX 1EE4BM644 1EE4CX 1EE4DM646 1EE4EM633 1EE4FM639 1EE50X 1EE51M635 1EE52M642 1EE53X
1EE54M634 1EE55X 1EE57M62E 1EE58X 1EE59M636 1EE5AX 1EE5BM63A 1EE5CX 1EE5DM6BA 1EE5EX 1EE5FM66F
1EE60X 1EE61M628 1EE62M62C 1EE63X 1EE64M647 1EE65X 1EE67M62D 1EE68M637 1EE69M64A 1EE6AM643
1EE6BX 1EE6CM645 1EE6DM646 1EE6EM633 1EE6FM639 1EE70M641 1EE71M635 1EE72M642 1EE73X 1EE74M634
1EE75M62A 1EE76M62B 1EE77M62E 1EE78X 1EE79M636 1EE7AM638 1EE7BM63A 1EE7CM66E 1EE7DX 1EE7EM6A1
1EE7FX 1EE80M627 1EE81M628 1EE82M62C 1EE83M62F 1EE84M647 1EE85M648 1EE86M632 1EE87M62D 1EE88M637
1EE89M64A 1EE8AX 1EE8BM644 1EE8CM645 1EE8DM646 1EE8EM633 1EE8FM639 1EE90M641 1EE91M635 1EE92M642
1EE93M631 1EE94M634 1EE95M62A 1EE96M62B 1EE97M62E 1EE98M630 1EE99M636 1EE9AM638 1EE9BM63A 1EE9CX
1EEA1M628 1EEA2M62C 1EEA3M62F 1EEA4X 1EEA5M648 1EEA6M632 1EEA7M62D 1EEA8M637 1EEA9M64A 1EEAAX
1EEABM644 1EEACM645 1EEADM646 1EEAEM633 1EEAFM639 1EEB0M641 1EEB1M635 1EEB2M642 1EEB3M631
1EEB4M634 1EEB5M62A 1EEB6M62B 1EEB7M62E 1EEB8M630 1EEB9M636 1EEBAM638 1EEBBM63A 1EEBCX 1EEF0V
1EEF2X 1F000V 1F02CX 1F030V 1F094X 1F0A0V 1F0AFX 1F0B1V 1F0C0X 1F0C1V 1F0D0X 1F0D1V 1F0F6X
1F101M30,2C 1F102M31,2C 1F103M32,2C 1F104M33,2C 1F105M34,2C 1F106M35,2C 1F107M36,2C 1F108M37,2C
1F109M38,2C 1F10AM39,2C 1F10BV 1F110M28,61,29 1F111M28,62,29 1F112M28,63,29 1F113M28,64,29
1F114M28,65,29 1F115M28,66,29 1F116M28,67,29 1F117M28,68,29 1F118M28,69,29 1F119M28,6A,29
1F11AM28,6B,29 1F11BM28,6C,29 1F11CM28,6D,29 1F11DM28,6E,29 1F11EM28,6F,29 1F11FM28,70,29
1F120M28,71,29 1F121M28,72,29 1F122M28,73,29 1F123M28,74,29 1F124M28,75,29 1F125M28,76,29
1F126M28,77,29 1F127M28,78,29 1F128M28,79,29 1F129M28,7A,29 1F12AM3014,73,3015 1F12BM63 1F12CM72
1F12DM63,64 1F12EM77,7A 1F12FV 1F130M61 1F131M62 1F132M63 1F133M64 1F134M65 1F135M66 1F136M67
1F137M68 1F138M69 1F139M6A 1F13AM6B 1F13BM6C 1F13CM6D 1F13DM6E 1F13EM6F 1F13FM70 1F140M71
1F141M72 1F142M73 1F143M74 1F144M75 1F145M76 1F146M77 1F147M78 1F148M79 1F149M7A 1F14AM68,76
1F14BM6D,76 1F14CM73,64 1F14DM73,73 1F14EM70,70,76 1F14FM77,63 1F150V 1F16AM6D,63 1F16BM6D,64
1F16CM6D,72 1F16DV 1F190M64,6A 1F191V 1F1AEX 1F1E6V 1F200M307B,304B 1F201M30B3,30B3 1F202M30B5
1F203X 1F210M624B 1F211M5B57 1F212M53CC 1F213M30C7 1F214M4E8C 1F215M591A 1F216M89E3 1F217M5929
1F218M4EA4 1F219M6620 1F21AM7121 1F21BM6599 1F21CM524D 1F21DM5F8C 1F21EM518D 1F21FM65B0
1F220M521D 1F221M7D42 1F222M751F 1F223M8CA9 1F224M58F0 1F225M5439 1F226M6F14 1F227M6295
1F228M6355 1F229M4E00 1F22AM4E09 1F22BM904A 1F22CM5DE6 1F22DM4E2D 1F22EM53F3 1F22FM6307
1F230M8D70 1F231M6253 1F232M7981 1F233M7A7A 1F234M5408 1F235M6E80 1F236M6709 1F237M6708
1F238M7533 1F239M5272 1F23AM55B6 1F23BM914D 1F23CX 1F240M3014,672C,3015 1F241M3014,4E09,3015
1F242M3014,4E8C,3015 1F243M3014,5B89,3015 1F244M3014,70B9,3015 1F245M3014,6253,3015
1F246M3014,76D7,3015 1F247M3014,52DD,3015 1F248M3014,6557,3015 1F249X 1F250M5F97 1F251M53EF
1F252X 1F260V 1F266X 1F300V 1F6D9X 1F6DCV 1F6EDX 1F6F0V 1F6FDX 1F700V 1F7DAX 1F7E0V 1F7ECX
1F7F0V 1F7F1X 1F800V 1F80CX 1F810V 1F848X 1F850V 1F85AX 1F860V 1F888X 1F890V 1F8AEX 1F8B0V
1F8BCX 1F8C0V 1F8C2X 1F8D0V 1F8D9X 1F900V 1FA58X 1FA60V 1FA6EX 1FA70V 1FA7DX 1FA80V 1FA8BX
1FA8EV 1FAC7X 1FAC8V 1FAC9X 1FACDV 1FADDX 1FADFV 1FAEBX 1FAEFV 1FAF9X 1FB00V 1FB93X 1FB94V
1FBF0M30 1FBF1M31 1FBF2M32 1FBF3M33 1FBF4M34 1FBF5M35 1FBF6M36 1FBF7M37 1FBF8M38 1FBF9M39 1FBFAV
1FBFBX 20000V 2A6E0X 2A700V 2B81EX 2B820V 2CEAEX 2CEB0V 2EBE1X 2EBF0V 2EE5EX 2F800M4E3D
2F801M4E38 2F802M4E41 2F803M20122 2F804M4F60 2F805M4FAE 2F806M4FBB 2F807M5002 2F808M507A
2F809M5099 2F80AM50E7 2F80BM50CF 2F80CM349E 2F80DM2063A 2F80EM514D 2F80FM5154 2F810M5164
2F811M5177 2F812M2051C 2F813M34B9 2F814M5167 2F815M518D 2F816M2054B 2F817M5197 2F818M51A4
2F819M4ECC 2F81AM51AC 2F81BM51B5 2F81CM291DF 2F81DM51F5 2F81EM5203 2F81FM34DF 2F820M523B
2F821M5246 2F822M5272 2F823M5277 2F824M3515 2F825M52C7 2F826M52C9 2F827M52E4 2F828M52FA
2F829M5305 2F82AM5306 2F82BM5317 2F82CM5349 2F82DM5351 2F82EM535A 2F82FM5373 2F830M537D
2F831M537F 2F834M20A2C 2F835M7070 2F836M53CA 2F837M53DF 2F838M20B63 2F839M53EB 2F83AM53F1
2F83BM5406 2F83CM549E 2F83DM5438 2F83EM5448 2F83FM5468 2F840M54A2 2F841M54F6 2F842M5510
2F843M5553 2F844M5563 2F845M5584 2F847M5599 2F848M55AB 2F849M55B3 2F84AM55C2 2F84BM5716
2F84CM5606 2F84DM5717 2F84EM5651 2F84FM5674 2F850M5207 2F851M58EE 2F852M57CE 2F853M57F4
2F854M580D 2F855M578B 2F856M5832 2F857M5831 2F858M58AC 2F859M214E4 2F85AM58F2 2F85BM58F7
2F85CM5906 2F85DM591A 2F85EM5922 2F85FM5962 2F860M216A8 2F861M216EA 2F862M59EC 2F863M5A1B
2F864M5A27 2F865M59D8 2F866M5A66 2F867M36EE 2F868M36FC 2F869M5B08 2F86AM5B3E 2F86CM219C8
2F86DM5BC3 2F86EM5BD8 2F86FM5BE7 2F870M5BF3 2F871M21B18 2F872M5BFF 2F873M5C06 2F874M5F53
2F875M5C22 2F876M3781 2F877M5C60 2F878M5C6E 2F879M5CC0 2F87AM5C8D 2F87BM21DE4 2F87CM5D43
2F87DM21DE6 2F87EM5D6E 2F87FM5D6B 2F880M5D7C 2F881M5DE1 2F882M5DE2 2F883M382F 2F884M5DFD
2F885M5E28 2F886M5E3D 2F887M5E69 2F888M3862 2F889M22183 2F88AM387C 2F88BM5EB0 2F88CM5EB3
2F88DM5EB6 2F88EM5ECA 2F88FM2A392 2F890M5EFE 2F891M22331 2F893M8201 2F894M5F22 2F896M38C7
2F897M232B8 2F898M261DA 2F899M5F62 2F89AM5F6B 2F89BM38E3 2F89CM5F9A 2F89DM5FCD 2F89EM5FD7
2F89FM5FF9 2F8A0M6081 2F8A1M393A 2F8A2M391C 2F8A3M6094 2F8A4M226D4 2F8A5M60C7 2F8A6M6148
2F8A7M614C 2F8A8M614E 2F8A9M614C 2F8AAM617A 2F8ABM618E 2F8ACM61B2 2F8ADM61A4 2F8AEM61AF
2F8AFM61DE 2F8B0M61F2 2F8B1M61F6 2F8B2M6210 2F8B3M621B 2F8B4M625D 2F8B5M62B1 2F8B6M62D4
2F8B7M6350 2F8B8M22B0C 2F8B9M633D 2F8BAM62FC 2F8BBM6368 2F8BCM6383 2F8BDM63E4 2F8BEM22BF1
2F8BFM6422 2F8C0M63C5 2F8C1M63A9 2F8C2M3A2E 2F8C3M6469 2F8C4M647E 2F8C5M649D 2F8C6M6477
2F8C7M3A6C 2F8C8M654F 2F8C9M656C 2F8CAM2300A 2F8CBM65E3 2F8CCM66F8 2F8CDM6649 2F8CEM3B19
2F8CFM6691 2F8D0M3B08 2F8D1M3AE4 2F8D2M5192 2F8D3M5195 2F8D4M6700 2F8D5M669C 2F8D6M80AD
2F8D7M43D9 2F8D8M6717 2F8D9M671B 2F8DAM6721 2F8DBM675E 2F8DCM6753 2F8DDM233C3 2F8DEM3B49
2F8DFM67FA 2F8E0M6785 2F8E1M6852 2F8E2M6885 2F8E3M2346D 2F8E4M688E 2F8E5M681F 2F8E6M6914
2F8E7M3B9D 2F8E8M6942 2F8E9M69A3 2F8EAM69EA 2F8EBM6AA8 2F8ECM236A3 2F8EDM6ADB 2F8EEM3C18
2F8EFM6B21 2F8F0M238A7 2F8F1M6B54 2F8F2M3C4E 2F8F3M6B72 2F8F4M6B9F 2F8F5M6BBA 2F8F6M6BBB
2F8F7M23A8D 2F8F8M21D0B 2F8F9M23AFA 2F8FAM6C4E 2F8FBM23CBC 2F8FCM6CBF 2F8FDM6CCD 2F8FEM6C67
2F8FFM6D16 2F900M6D3E 2F901M6D77 2F902M6D41 2F903M6D69 2F904M6D78 2F905M6D85 2F906M23D1E
2F907M6D34 2F908M6E2F 2F909M6E6E 2F90AM3D33 2F90BM6ECB 2F90CM6EC7 2F90DM23ED1 2F90EM6DF9
2F90FM6F6E 2F910M23F5E 2F911M23F8E 2F912M6FC6 2F913M7039 2F914M701E 2F915M701B 2F916M3D96
2F917M704A 2F918M707D 2F919M7077 2F91AM70AD 2F91BM20525 2F91CM7145 2F91DM24263 2F91EM719C
2F91FM243AB 2F920M7228 2F921M7235 2F922M7250 2F923M24608 2F924M7280 2F925M7295 2F926M24735
2F927M24814 2F928M737A 2F929M738B 2F92AM3EAC 2F92BM73A5 2F92CM3EB8 2F92EM7447 2F92FM745C
2F930M7471 2F931M7485 2F932M74CA 2F933M3F1B 2F934M7524 2F935M24C36 2F936M753E 2F937M24C92
2F938M7570 2F939M2219F 2F93AM7610 2F93BM24FA1 2F93CM24FB8 2F93DM25044 2F93EM3FFC 2F93FM4008
2F940M76F4 2F941M250F3 2F942M250F2 2F943M25119 2F944M25133 2F945M771E 2F946M771F 2F948M774A
2F949M4039 2F94AM778B 2F94BM4046 2F94CM4096 2F94DM2541D 2F94EM784E 2F94FM788C 2F950M78CC
2F951M40E3 2F952M25626 2F953M7956 2F954M2569A 2F955M256C5 2F956M798F 2F957M79EB 2F958M412F
2F959M7A40 2F95AM7A4A 2F95BM7A4F 2F95CM2597C 2F95DM25AA7 2F95FM7AEE 2F960M4202 2F961M25BAB
2F962M7BC6 2F963M7BC9 2F964M4227 2F965M25C80 2F966M7CD2 2F967M42A0 2F968M7CE8 2F969M7CE3
2F96AM7D00 2F96BM25F86 2F96CM7D63 2F96DM4301 2F96EM7DC7 2F96FM7E02 2F970M7E45 2F971M4334
2F972M26228 2F973M26247 2F974M4359 2F975M262D9 2F976M7F7A 2F977M2633E 2F978M7F95 2F979M7FFA
2F97AM8005 2F97BM264DA 2F97CM26523 2F97DM8060 2F97EM265A8 2F97FM8070 2F980M2335F 2F981M43D5
2F982M80B2 2F983M8103 2F984M440B 2F985M813E 2F986M5AB5 2F987M267A7 2F988M267B5 2F989M23393
2F98AM2339C 2F98BM8201 2F98CM8204 2F98DM8F9E 2F98EM446B 2F98FM8291 2F990M828B 2F991M829D
2F992M52B3 2F993M82B1 2F994M82B3 2F995M82BD 2F996M82E6 2F997M26B3C 2F998M82E5 2F999M831D
2F99AM8363 2F99BM83AD 2F99CM8323 2F99DM83BD 2F99EM83E7 2F99FM8457 2F9A0M8353 2F9A1M83CA
2F9A2M83CC 2F9A3M83DC 2F9A4M26C36 2F9A5M26D6B 2F9A6M26CD5 2F9A7M452B 2F9A8M84F1 2F9A9M84F3
2F9AAM8516 2F9ABM273CA 2F9ACM8564 2F9ADM26F2C 2F9AEM455D 2F9AFM4561 2F9B0M26FB1 2F9B1M270D2
2F9B2M456B 2F9B3M8650 2F9B4M865C 2F9B5M8667 2F9B6M8669 2F9B7M86A9 2F9B8M8688 2F9B9M870E
2F9BAM86E2 2F9BBM8779 2F9BCM8728 2F9BDM876B 2F9BEM8786 2F9BFM45D7 2F9C0M87E1 2F9C1M8801
2F9C2M45F9 2F9C3M8860 2F9C4M8863 2F9C5M27667 2F9C6M88D7 2F9C7M88DE 2F9C8M4635 2F9C9M88FA
2F9CAM34BB 2F9CBM278AE 2F9CCM27966 2F9CDM46BE 2F9CEM46C7 2F9CFM8AA0 2F9D0M8AED 2F9D1M8B8A
2F9D2M8C55 2F9D3M27CA8 2F9D4M8CAB 2F9D5M8CC1 2F9D6M8D1B 2F9D7M8D77 2F9D8M27F2F 2F9D9M20804
2F9DAM8DCB 2F9DBM8DBC 2F9DCM8DF0 2F9DDM208DE 2F9DEM8ED4 2F9DFM8F38 2F9E0M285D2 2F9E1M285ED
2F9E2M9094 2F9E3M90F1 2F9E4M9111 2F9E5M2872E 2F9E6M911B 2F9E7M9238 2F9E8M92D7 2F9E9M92D8
2F9EAM927C 2F9EBM93F9 2F9ECM9415 2F9EDM28BFA 2F9EEM958B 2F9EFM4995 2F9F0M95B7 2F9F1M28D77
2F9F2M49E6 2F9F3M96C3 2F9F4M5DB2 2F9F5M9723 2F9F6M29145 2F9F7M2921A 2F9F8M4A6E 2F9F9M4A76
2F9FAM97E0 2F9FBM2940A 2F9FCM4AB2 2F9FDM29496 2F9FEM980B 2FA00M9829 2FA01M295B6 2FA02M98E2
2FA03M4B33 2FA04M9929 2FA05M99A7 2FA06M99C2 2FA07M99FE 2FA08M4BCE 2FA09M29B30 2FA0AM9B12
2FA0BM9C40 2FA0CM9CFD 2FA0DM4CCE 2FA0EM4CED 2FA0FM9D67 2FA10M2A0CE 2FA11M4CF8 2FA12M2A105
2FA13M2A20E 2FA14M2A291 2FA15M9EBB 2FA16M4D56 2FA17M9EF9 2FA18M9EFE 2FA19M9F05 2FA1AM9F0F
2FA1BM9F16 2FA1CM9F3B 2FA1DM2A600 2FA1EX 30000V 3134BX 31350V 3347AX E0100I E01F0X"

def mappingTable : Array (Nat × Disposition) := Text.keyedTable Disposition.ofWord mappingText

def disposition (c : Char) : Disposition := (Text.lookup mappingTable c.toNat).getD .disallowed

end Idna

end RentalStatus
