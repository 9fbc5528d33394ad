/-! Names of the characters of historic and of rarer scripts. -/

namespace RecordSchema.Text.CharacterName

def ancient : String := "10000;LINEAR B SYLLABLE B008 A;cB038 E;cB028 I;cB061 O;cB010 U;cB001 DA;cB045 DE;cB007 DI;cB014 DO
10009;LINEAR B SYLLABLE B051 DU;cB057 JA;cB046 JE
1000D;LINEAR B SYLLABLE B036 JO;cB065 JU;cB077 KA;cB044 KE;cB067 KI;cB070 KO;cB081 KU;cB080 MA
10015;LINEAR B SYLLABLE B013 ME;cB073 MI;cB015 MO;cB023 MU;cB006 NA;cB024 NE;cB030 NI;cB052 NO
1001D;LINEAR B SYLLABLE B055 NU;cB003 PA;cB072 PE;cB039 PI;cB011 PO;cB050 PU;cB016 QA;cB078 QE
10025;LINEAR B SYLLABLE B021 QI;cB032 QO
10028;LINEAR B SYLLABLE B060 RA;cB027 RE;cB053 RI;cB002 RO;cB026 RU;cB031 SA;cB009 SE;cB041 SI
10030;LINEAR B SYLLABLE B012 SO;cB058 SU;cB059 TA;cB004 TE;cB037 TI;cB005 TO;cB069 TU;cB054 WA
10038;LINEAR B SYLLABLE B075 WE;cB040 WI;cB042 WO
1003C;LINEAR B SYLLABLE B017 ZA;cB074 ZE
1003F;LINEAR B SYLLABLE B020 ZO;cB025 A2;cB043 A3;cB085 AU;cB071 DWE;cB090 DWO;cB048 NWA;cB029 PU2
10047;LINEAR B SYLLABLE B062 PTE;cB076 RA2;cB033 RA3;cB068 RO2;cB066 TA2;cB087 TWE;cB091 TWO
10050;LINEAR B SYMBOL B018;cB019;cB022;cB034;cB047;cB049;cB056;cB063;cB064;cB079;cB082;cB083;cB086
1005D;LINEAR B SYMBOL B089
10080;LINEAR B IDEOGRAM B100 MAN;cB102 WOMAN;cB104 DEER;cB105 EQUID;cB105F MARE;cB105M STALLION
10086;LINEAR B IDEOGRAM B106F EWE;cB106M RAM;cB107F SHE-GOAT;cB107M HE-GOAT;cB108F SOW;cB108M BOAR
1008C;LINEAR B IDEOGRAM B109F COW;cB109M BULL;cB120 WHEAT;cB121 BARLEY;cB122 OLIVE;cB123 SPICE
10092;LINEAR B IDEOGRAM B125 CYPERUS;bMONOGRAM B127 KAPO;cB128 KANAKO;bIDEOGRAM B130 OIL
10096;LINEAR B IDEOGRAM B131 WINE;cB132;bMONOGRAM B133 AREPA;cB135 MERI;bIDEOGRAM B140 BRONZE
1009B;LINEAR B IDEOGRAM B141 GOLD;cB142;cB145 WOOL;cB146;cB150;cB151 HORN;cB152;cB153;cB154
100A4;LINEAR B MONOGRAM B156 TURO2;bIDEOGRAM B157;cB158;cB159 CLOTH;cB160;cB161;cB162 GARMENT
100AB;LINEAR B IDEOGRAM B163 ARMOUR;cB164;cB165;cB166;cB167;cB168;cB169;cB170;cB171;cB172
100B5;LINEAR B IDEOGRAM B173 MONTH;cB174;cB176 TREE;cB177;cB178;cB179;cB180;cB181;cB182;cB183
100BF;LINEAR B IDEOGRAM B184;cB185;cB189;cB190;cB191 HELMET;cB220 FOOTSTOOL;cB225 BATHTUB
100C6;LINEAR B IDEOGRAM B230 SPEAR;cB231 ARROW;cB232;cB233 SWORD;cB234;cB236;cB240 WHEELED CHARIOT
100CD;LINEAR B IDEOGRAM B241 CHARIOT;cB242 CHARIOT FRAME;cB243 WHEEL;cB245;cB246
100D2;LINEAR B MONOGRAM B247 DIPTE;bIDEOGRAM B248;cB249;cB251;cB252;cB253;cB254 DART;cB255;cB256
100DB;LINEAR B IDEOGRAM B257;cB258;cB259;cVESSEL B155;dB200;dB201;dB202;dB203;dB204;dB205;dB206
100E6;LINEAR B IDEOGRAM VESSEL B207;dB208;dB209;dB210;dB211;dB212;dB213;dB214;dB215;dB216;dB217
100F1;LINEAR B IDEOGRAM VESSEL B218;dB219;dB221;dB222;dB226;dB227;dB228;dB229;dB250;dB305
10100;AEGEAN WORD SEPARATOR LINE;cDOT;aCHECK MARK
10107;AEGEAN NUMBER ONE;bTWO;bTHREE;bFOUR;bFIVE;bSIX;bSEVEN;bEIGHT;bNINE;bTEN;bTWENTY;bTHIRTY
10113;AEGEAN NUMBER FORTY;bFIFTY;bSIXTY;bSEVENTY;bEIGHTY;bNINETY;bONE HUNDRED;bTWO HUNDRED
1011B;AEGEAN NUMBER THREE HUNDRED;bFOUR HUNDRED;bFIVE HUNDRED;bSIX HUNDRED;bSEVEN HUNDRED
10120;AEGEAN NUMBER EIGHT HUNDRED;bNINE HUNDRED;bONE THOUSAND;bTWO THOUSAND;bTHREE THOUSAND
10125;AEGEAN NUMBER FOUR THOUSAND;bFIVE THOUSAND;bSIX THOUSAND;bSEVEN THOUSAND;bEIGHT THOUSAND
1012A;AEGEAN NUMBER NINE THOUSAND;bTEN THOUSAND;bTWENTY THOUSAND;bTHIRTY THOUSAND;bFORTY THOUSAND
1012F;AEGEAN NUMBER FIFTY THOUSAND;bSIXTY THOUSAND;bSEVENTY THOUSAND;bEIGHTY THOUSAND
10133;AEGEAN NUMBER NINETY THOUSAND
10137;AEGEAN WEIGHT BASE UNIT;bFIRST SUBUNIT;bSECOND SUBUNIT;bTHIRD SUBUNIT;bFOURTH SUBUNIT
1013C;AEGEAN DRY MEASURE FIRST SUBUNIT;aLIQUID MEASURE FIRST SUBUNIT;aMEASURE SECOND SUBUNIT
1013F;AEGEAN MEASURE THIRD SUBUNIT;GREEK ACROPHONIC ATTIC ONE QUARTER;dHALF;dDRACHMA;cFIVE;cFIFTY
10145;GREEK ACROPHONIC ATTIC FIVE HUNDRED;dTHOUSAND;cFIFTY THOUSAND;cFIVE TALENTS;cTEN TALENTS
1014A;GREEK ACROPHONIC ATTIC FIFTY TALENTS;cONE HUNDRED TALENTS;cFIVE HUNDRED TALENTS
1014D;GREEK ACROPHONIC ATTIC ONE THOUSAND TALENTS;cFIVE THOUSAND TALENTS;dSTATERS;cTEN STATERS
10151;GREEK ACROPHONIC ATTIC FIFTY STATERS;cONE HUNDRED STATERS;cFIVE HUNDRED STATERS
10154;GREEK ACROPHONIC ATTIC ONE THOUSAND STATERS;cTEN THOUSAND STATERS;cFIFTY THOUSAND STATERS
10157;GREEK ACROPHONIC ATTIC TEN MNAS;bHERAEUM ONE PLETHRON;bTHESPIAN ONE;bHERMIONIAN ONE
1015B;GREEK ACROPHONIC EPIDAUREAN TWO;bTHESPIAN TWO;bCYRENAIC TWO DRACHMAS
1015E;GREEK ACROPHONIC EPIDAUREAN TWO DRACHMAS;bTROEZENIAN FIVE;cTEN;dALTERNATE FORM
10162;GREEK ACROPHONIC HERMIONIAN TEN;bMESSENIAN TEN;bTHESPIAN TEN;cTHIRTY;bTROEZENIAN FIFTY
10167;GREEK ACROPHONIC TROEZENIAN FIFTY ALTERNATE FORM;bHERMIONIAN FIFTY;bTHESPIAN FIFTY
1016A;GREEK ACROPHONIC THESPIAN ONE HUNDRED;cTHREE HUNDRED;bEPIDAUREAN FIVE HUNDRED
1016D;GREEK ACROPHONIC TROEZENIAN FIVE HUNDRED;bTHESPIAN FIVE HUNDRED;bCARYSTIAN FIVE HUNDRED
10170;GREEK ACROPHONIC NAXIAN FIVE HUNDRED;bTHESPIAN ONE THOUSAND;cFIVE THOUSAND
10173;GREEK ACROPHONIC DELPHIC FIVE MNAS;bSTRATIAN FIFTY MNAS;aONE HALF SIGN;dALTERNATE FORM
10177;GREEK TWO THIRDS SIGN;aTHREE QUARTERS SIGN;aYEAR SIGN;aTALENT SIGN;aDRACHMA SIGN;aOBOL SIGN
1017D;GREEK TWO OBOLS SIGN;aTHREE OBOLS SIGN;aFOUR OBOLS SIGN;aFIVE OBOLS SIGN;aMETRETES SIGN
10182;GREEK KYATHOS BASE SIGN;aLITRA SIGN;aOUNKIA SIGN;aXESTES SIGN;aARTABE SIGN;aAROURA SIGN
10188;GREEK GRAMMA SIGN;aTRYBLION BASE SIGN;aZERO SIGN;aONE QUARTER SIGN;aSINUSOID SIGN
1018D;GREEK INDICTION SIGN;NOMISMA SIGN
10190;ROMAN SEXTANS SIGN;aUNCIA SIGN;aSEMUNCIA SIGN;aSEXTULA SIGN;aDIMIDIA SEXTULA SIGN
10195;ROMAN SILIQUA SIGN;aDENARIUS SIGN;aQUINARIUS SIGN;aSESTERTIUS SIGN;aDUPONDIUS SIGN;aAS SIGN
1019B;ROMAN CENTURIAL SIGN;ASCIA SYMBOL
101A0;GREEK SYMBOL TAU RHO
101D0;PHAISTOS DISC SIGN PEDESTRIAN;cPLUMED HEAD;cTATTOOED HEAD;cCAPTIVE;cCHILD;cWOMAN;cHELMET
101D7;PHAISTOS DISC SIGN GAUNTLET;cTIARA;cARROW;cBOW;cSHIELD;cCLUB;cMANACLES;cMATTOCK;cSAW;cLID
101E1;PHAISTOS DISC SIGN BOOMERANG;cCARPENTRY PLANE;cDOLIUM;cCOMB;cSLING;cCOLUMN;cBEEHIVE;cSHIP
101E9;PHAISTOS DISC SIGN HORN;cHIDE;cBULLS LEG;cCAT;cRAM;cEAGLE;cDOVE;cTUNNY;cBEE;cPLANE TREE
101F3;PHAISTOS DISC SIGN VINE;cPAPYRUS;cROSETTE;cLILY;cOX BACK;cFLUTE;cGRATER;cSTRAINER;cSMALL AXE
101FC;PHAISTOS DISC SIGN WAVY BAND;cCOMBINING OBLIQUE STROKE
10280;LYCIAN LETTER A;bE;bB;bBH;bG;bD;bI;bW;bZ;bTH;bJ;bK;bQ;bL;bM;bN;bMM;bNN;bU;bP;bKK;bR;bS;bT
10298;LYCIAN LETTER TT;bAN;bEN;bH;bX
102A0;CARIAN LETTER A;bP2;bD;bL;bUUU;bR;bLD;bA2;bQ;bB;bM;bO;bD2;bT;bSH;bSH2;bS;bC-18;bU;bNN;bX;bN
102B6;CARIAN LETTER TT2;bP;bSS;bI;bE;bUUUU;bK;bK2;bND;bUU;bG;bG2;bST;bST2;bNG;bII;bC-39;bTT;bUUU2
102C9;CARIAN LETTER RR;bMB;bMB2;bMB3;bMB4;bLD2;bE2;bUUU3
102E0;COPTIC EPACT THOUSANDS MARK;bDIGIT ONE;cTWO;cTHREE;cFOUR;cFIVE;cSIX;cSEVEN;cEIGHT;cNINE
102EA;COPTIC EPACT NUMBER TEN;cTWENTY;cTHIRTY;cFORTY;cFIFTY;cSIXTY;cSEVENTY;cEIGHTY;cNINETY
102F3;COPTIC EPACT NUMBER ONE HUNDRED;cTWO HUNDRED;cTHREE HUNDRED;cFOUR HUNDRED;cFIVE HUNDRED
102F8;COPTIC EPACT NUMBER SIX HUNDRED;cSEVEN HUNDRED;cEIGHT HUNDRED;cNINE HUNDRED
10300;OLD ITALIC LETTER A;cBE;cKE;cDE;cE;cVE;cZE;cHE;cTHE;cI;cKA;cEL;cEM;cEN;cESH;cO;cPE;cSHE;cKU
10313;OLD ITALIC LETTER ER;cES;cTE;cU;cEKS;cPHE;cKHE;cEF;cERS;cCHE;cII;cUU;cESS;bNUMERAL ONE;cFIVE
10322;OLD ITALIC NUMERAL TEN;cFIFTY
1032D;OLD ITALIC LETTER YE;cNORTHERN TSE;cSOUTHERN TSE;GOTHIC LETTER AHSA;bBAIRKAN;bGIBA;bDAGS
10334;GOTHIC LETTER AIHVUS;bQAIRTHRA;bIUJA;bHAGL;bTHIUTH;bEIS;bKUSMA;bLAGUS;bMANNA;bNAUTHS;bJER
1033F;GOTHIC LETTER URUS;bPAIRTHRA;bNINETY;bRAIDA;bSAUIL;bTEIWS;bWINJA;bFAIHU;bIGGWS;bHWAIR;bOTHAL
1034A;GOTHIC LETTER NINE HUNDRED
10350;OLD PERMIC LETTER AN;cBUR;cGAI;cDOI;cE;cZHOI;cDZHOI;cZATA;cDZITA;cI;cKOKE;cLEI;cMENOE;cNENOE
1035E;OLD PERMIC LETTER VOOI;cPEEI;cREI;cSII;cTAI;cU;cCHERY;cSHOOI;cSHCHOOI;cYRY;cYERU;cO;cOO;cEF
1036C;OLD PERMIC LETTER HA;cTSIU;cVER;cYER;cYERI;cYAT;cIE;cYU;cYA;cIA
10376;COMBINING OLD PERMIC LETTER AN;dDOI;dZATA;dNENOE;dSII
10380;UGARITIC LETTER ALPA;bBETA;bGAMLA;bKHA;bDELTA;bHO;bWO;bZETA;bHOTA;bTET;bYOD;bKAF;bSHIN
1038D;UGARITIC LETTER LAMDA;bMEM;bDHAL;bNUN;bZU;bSAMKA;bAIN;bPU;bSADE;bQOPA;bRASHA;bTHANNA;bGHAIN
1039A;UGARITIC LETTER TO;bI;bU;bSSU
1039F;UGARITIC WORD DIVIDER;OLD PERSIAN SIGN A;cI;cU;cKA;cKU;cGA;cGU;cXA;cCA;cJA;cJI;cTA;cTU;cDA
103AE;OLD PERSIAN SIGN DI;cDU;cTHA;cPA;cBA;cFA;cNA;cNU;cMA;cMI;cMU;cYA;cVA;cVI;cRA;cRU;cLA;cSA;cZA
103C1;OLD PERSIAN SIGN SHA;cSSA;cHA
103C8;OLD PERSIAN SIGN AURAMAZDAA;cAURAMAZDAA-2;cAURAMAZDAAHA;cXSHAAYATHIYA;cDAHYAAUSH
103CD;OLD PERSIAN SIGN DAHYAAUSH-2;cBAGA;cBUUMISH;bWORD DIVIDER;bNUMBER ONE;cTWO;cTEN;cTWENTY
103D5;OLD PERSIAN NUMBER HUNDRED
10400;DESERET CAPITAL LETTER LONG I;dE;dA;dAH;dO;dOO;cSHORT I;dE;dA;dAH;dO;dOO;cAY;cOW;cWU;cYEE;cH
10411;DESERET CAPITAL LETTER PEE;cBEE;cTEE;cDEE;cCHEE;cJEE;cKAY;cGAY;cEF;cVEE;cETH;cTHEE;cES;cZEE
1041F;DESERET CAPITAL LETTER ESH;cZHEE;cER;cEL;cEM;cEN;cENG;cOI;cEW;aSMALL LETTER LONG I;dE;dA;dAH
1042C;DESERET SMALL LETTER LONG O;dOO;cSHORT I;dE;dA;dAH;dO;dOO;cAY;cOW;cWU;cYEE;cH;cPEE;cBEE;cTEE
1043C;DESERET SMALL LETTER DEE;cCHEE;cJEE;cKAY;cGAY;cEF;cVEE;cETH;cTHEE;cES;cZEE;cESH;cZHEE;cER
1044A;DESERET SMALL LETTER EL;cEM;cEN;cENG;cOI;cEW;SHAVIAN LETTER PEEP;bTOT;bKICK;bFEE;bTHIGH;bSO
10456;SHAVIAN LETTER SURE;bCHURCH;bYEA;bHUNG;bBIB;bDEAD;bGAG;bVOW;bTHEY;bZOO;bMEASURE;bJUDGE;bWOE
10463;SHAVIAN LETTER HA-HA;bLOLL;bMIME;bIF;bEGG;bASH;bADO;bON;bWOOL;bOUT;bAH;bROAR;bNUN;bEAT;bAGE
10472;SHAVIAN LETTER ICE;bUP;bOAK;bOOZE;bOIL;bAWE;bARE;bOR;bAIR;bERR;bARRAY;bEAR;bIAN;bYEW
10480;OSMANYA LETTER ALEF;bBA;bTA;bJA;bXA;bKHA;bDEEL;bRA;bSA;bSHIIN;bDHA;bCAYN;bGA;bFA;bQAAF;bKAAF
10490;OSMANYA LETTER LAAN;bMIIN;bNUUN;bWAW;bHA;bYA;bA;bE;bI;bO;bU;bAA;bEE;bOO
104A0;OSMANYA DIGIT ZERO;bONE;bTWO;bTHREE;bFOUR;bFIVE;bSIX;bSEVEN;bEIGHT;bNINE
104B0;OSAGE CAPITAL LETTER A;cAI;cAIN;cAH;cBRA;cCHA;cEHCHA;cE;cEIN;cHA;cHYA;cI;cKA;cEHKA;cKYA;cLA
104C0;OSAGE CAPITAL LETTER MA;cNA;cO;cOIN;cPA;cEHPA;cSA;cSHA;cTA;cEHTA;cTSA;cEHTSA;cTSHA;cDHA;cU
104CF;OSAGE CAPITAL LETTER WA;cKHA;cGHA;cZA;cZHA
104D8;OSAGE SMALL LETTER A;cAI;cAIN;cAH;cBRA;cCHA;cEHCHA;cE;cEIN;cHA;cHYA;cI;cKA;cEHKA;cKYA;cLA
104E8;OSAGE SMALL LETTER MA;cNA;cO;cOIN;cPA;cEHPA;cSA;cSHA;cTA;cEHTA;cTSA;cEHTSA;cTSHA;cDHA;cU;cWA
104F8;OSAGE SMALL LETTER KHA;cGHA;cZA;cZHA
10500;ELBASAN LETTER A;bBE;bCE;bCHE;bDE;bNDE;bDHE;bEI;bE;bFE;bGE;bGJE;bHE;bI;bJE;bKE;bLE;bLLE;bME
10513;ELBASAN LETTER NE;bNA;bNJE;bO;bPE;bQE;bRE;bRRE;bSE;bSHE;bTE;bTHE;bU;bVE;bXE;bY;bZE;bZHE;bGHE
10526;ELBASAN LETTER GHAMMA;bKHE
10530;CAUCASIAN ALBANIAN LETTER ALT;cBET;cGIM;cDAT;cEB;cZARL;cEYN;cZHIL;cTAS;cCHA;cYOWD;cZHA;cIRB
1053D;CAUCASIAN ALBANIAN LETTER SHA;cLAN;cINYA;cXEYN;cDYAN;cCAR;cJHOX;cKAR;cLYIT;cHEYT;cQAY;cAOR
10549;CAUCASIAN ALBANIAN LETTER CHOY;cCHI;cCYAY;cMAQ;cQAR;cNOWC;cDZYAY;cSHAK;cJAYN;cON;cTYAY;cFAM
10555;CAUCASIAN ALBANIAN LETTER DZAY;cCHAT;cPEN;cGHEYS;cRAT;cSEYK;cVEYZ;cTIWR;cSHOY;cIWN;cCYAW
10560;CAUCASIAN ALBANIAN LETTER CAYN;cYAYD;cPIWR;cKIW
1056F;CAUCASIAN ALBANIAN CITATION MARK;VITHKUQI CAPITAL LETTER A;cBBE;cBE;cCE;cCHE;cDE;cDHE;cEI;cE
10579;VITHKUQI CAPITAL LETTER FE;cGA
1057C;VITHKUQI CAPITAL LETTER HA;cHHA;cI;cIJE;cJE;cKA;cLA;cLLA;cME;cNE;cNJE;cO;cPE;cQA;cRE
1058C;VITHKUQI CAPITAL LETTER SE;cSHE;cTE;cTHE;cU;cVE;cXE
10594;VITHKUQI CAPITAL LETTER Y;cZE
10597;VITHKUQI SMALL LETTER A;cBBE;cBE;cCE;cCHE;cDE;cDHE;cEI;cE;cFE;cGA
105A3;VITHKUQI SMALL LETTER HA;cHHA;cI;cIJE;cJE;cKA;cLA;cLLA;cME;cNE;cNJE;cO;cPE;cQA;cRE
105B3;VITHKUQI SMALL LETTER SE;cSHE;cTE;cTHE;cU;cVE;cXE
105BB;VITHKUQI SMALL LETTER Y;cZE
10600;LINEAR A SIGN AB001;cAB002;cAB003;cAB004;cAB005;cAB006;cAB007;cAB008;cAB009;cAB010;cAB011
1060B;LINEAR A SIGN AB013;cAB016;cAB017;cAB020;cAB021;cAB021F;cAB021M;cAB022;cAB022F;cAB022M
10615;LINEAR A SIGN AB023;cAB023M;cAB024;cAB026;cAB027;cAB028;cA028B;cAB029;cAB030;cAB031;cAB034
10620;LINEAR A SIGN AB037;cAB038;cAB039;cAB040;cAB041;cAB044;cAB045;cAB046;cAB047;cAB048;cAB049
1062B;LINEAR A SIGN AB050;cAB051;cAB053;cAB054;cAB055;cAB056;cAB057;cAB058;cAB059;cAB060;cAB061
10636;LINEAR A SIGN AB065;cAB066;cAB067;cAB069;cAB070;cAB073;cAB074;cAB076;cAB077;cAB078;cAB079
10641;LINEAR A SIGN AB080;cAB081;cAB082;cAB085;cAB086;cAB087;cA100-102;cAB118;cAB120;cA120B;cAB122
1064C;LINEAR A SIGN AB123;cAB131A;cAB131B;cA131C;cAB164;cAB171;cAB180;cAB188;cAB191;cA301;cA302
10657;LINEAR A SIGN A303;cA304;cA305;cA306;cA307;cA308;cA309A;cA309B;cA309C;cA310;cA311;cA312
10663;LINEAR A SIGN A313A;cA313B;cA313C;cA314;cA315;cA316;cA317;cA318;cA319;cA320;cA321;cA322
1066F;LINEAR A SIGN A323;cA324;cA325;cA326;cA327;cA328;cA329;cA330;cA331;cA332;cA333;cA334;cA335
1067C;LINEAR A SIGN A336;cA337;cA338;cA339;cA340;cA341;cA342;cA343;cA344;cA345;cA346;cA347;cA348
10689;LINEAR A SIGN A349;cA350;cA351;cA352;cA353;cA354;cA355;cA356;cA357;cA358;cA359;cA360;cA361
10696;LINEAR A SIGN A362;cA363;cA364;cA365;cA366;cA367;cA368;cA369;cA370;cA371;cA400-VAS;cA401-VAS
106A2;LINEAR A SIGN A402-VAS;cA403-VAS;cA404-VAS;cA405-VAS;cA406-VAS;cA407-VAS;cA408-VAS;cA409-VAS
106AA;LINEAR A SIGN A410-VAS;cA411-VAS;cA412-VAS;cA413-VAS;cA414-VAS;cA415-VAS;cA416-VAS;cA417-VAS
106B2;LINEAR A SIGN A418-VAS;cA501;cA502;cA503;cA504;cA505;cA506;cA508;cA509;cA510;cA511;cA512
106BE;LINEAR A SIGN A513;cA515;cA516;cA520;cA521;cA523;cA524;cA525;cA526;cA527;cA528;cA529;cA530
106CB;LINEAR A SIGN A531;cA532;cA534;cA535;cA536;cA537;cA538;cA539;cA540;cA541;cA542;cA545;cA547
106D8;LINEAR A SIGN A548;cA549;cA550;cA551;cA552;cA553;cA554;cA555;cA556;cA557;cA559;cA563;cA564
106E5;LINEAR A SIGN A565;cA566;cA568;cA569;cA570;cA571;cA572;cA573;cA574;cA575;cA576;cA577;cA578
106F2;LINEAR A SIGN A579;cA580;cA581;cA582;cA583;cA584;cA585;cA586;cA587;cA588;cA589;cA591;cA592
106FF;LINEAR A SIGN A594;cA595;cA596;cA598;cA600;cA601;cA602;cA603;cA604;cA606;cA608;cA609;cA610
1070C;LINEAR A SIGN A611;cA612;cA613;cA614;cA615;cA616;cA617;cA618;cA619;cA620;cA621;cA622;cA623
10719;LINEAR A SIGN A624;cA626;cA627;cA628;cA629;cA634;cA637;cA638;cA640;cA642;cA643;cA644;cA645
10726;LINEAR A SIGN A646;cA648;cA649;cA651;cA652;cA653;cA654;cA655;cA656;cA657;cA658;cA659;cA660
10733;LINEAR A SIGN A661;cA662;cA663;cA664
10740;LINEAR A SIGN A701 A;cA702 B;cA703 D;cA704 E;cA705 F;cA706 H;cA707 J;cA708 K;cA709 L
10749;LINEAR A SIGN A709-2 L2;cA709-3 L3;cA709-4 L4;cA709-6 L6;cA710 W;cA711 X;cA712 Y;cA713 OMEGA
10751;LINEAR A SIGN A714 ABB;cA715 BB;cA717 DD;cA726 EYYY;cA732 JE
10760;LINEAR A SIGN A800;cA801;cA802;cA803;cA804;cA805;cA806;cA807
10780;MODIFIER LETTER SMALL CAPITAL AA;bSUPERSCRIPT TRIANGULAR COLON;cHALF TRIANGULAR COLON
10783;MODIFIER LETTER SMALL AE;cCAPITAL B;cB WITH HOOK
10787;MODIFIER LETTER SMALL DZ DIGRAPH;eWITH RETROFLEX HOOK;fCURL;cDEZH DIGRAPH;cD WITH TAIL;eHOOK
1078D;MODIFIER LETTER SMALL D WITH HOOK AND TAIL;cREVERSED E;cCLOSED REVERSED OPEN E;cFENG DIGRAPH
10791;MODIFIER LETTER SMALL RAMS HORN;cCAPITAL G;cG WITH HOOK;cCAPITAL G WITH HOOK;cH WITH STROKE
10796;MODIFIER LETTER SMALL CAPITAL H;cHENG WITH HOOK;cDOTLESS J WITH STROKE AND HOOK;cLS DIGRAPH
1079A;MODIFIER LETTER SMALL LZ DIGRAPH;cL WITH BELT;cCAPITAL L WITH BELT
1079D;MODIFIER LETTER SMALL L WITH RETROFLEX HOOK AND BELT;cLEZH;dWITH RETROFLEX HOOK;cTURNED Y
107A1;MODIFIER LETTER SMALL TURNED Y WITH BELT;cO WITH STROKE;cCAPITAL OE;cCLOSED OMEGA;cQ
107A6;MODIFIER LETTER SMALL TURNED R WITH LONG LEG;hAND RETROFLEX HOOK;cR WITH TAIL;eFISHHOOK
107AA;MODIFIER LETTER SMALL CAPITAL R;cTC DIGRAPH WITH CURL;cTS DIGRAPH;eWITH RETROFLEX HOOK
107AE;MODIFIER LETTER SMALL TESH DIGRAPH;cT WITH RETROFLEX HOOK;cV WITH RIGHT HOOK
107B2;MODIFIER LETTER SMALL CAPITAL Y;bGLOTTAL STOP WITH STROKE;bREVERSED GLOTTAL STOP WITH STROKE
107B5;MODIFIER LETTER BILABIAL CLICK;bDENTAL CLICK;bLATERAL CLICK;bALVEOLAR CLICK
107B9;MODIFIER LETTER RETROFLEX CLICK WITH RETROFLEX HOOK;bSMALL S WITH CURL
10800;CYPRIOT SYLLABLE A;bE;bI;bO;bU;bJA
10808;CYPRIOT SYLLABLE JO
1080A;CYPRIOT SYLLABLE KA;bKE;bKI;bKO;bKU;bLA;bLE;bLI;bLO;bLU;bMA;bME;bMI;bMO;bMU;bNA;bNE;bNI;bNO
1081D;CYPRIOT SYLLABLE NU;bPA;bPE;bPI;bPO;bPU;bRA;bRE;bRI;bRO;bRU;bSA;bSE;bSI;bSO;bSU;bTA;bTE;bTI
10830;CYPRIOT SYLLABLE TO;bTU;bWA;bWE;bWI;bWO
10837;CYPRIOT SYLLABLE XA;bXE
1083C;CYPRIOT SYLLABLE ZA
1083F;CYPRIOT SYLLABLE ZO;IMPERIAL ARAMAIC LETTER ALEPH;cBETH;cGIMEL;cDALETH;cHE;cWAW;cZAYIN;cHETH
10848;IMPERIAL ARAMAIC LETTER TETH;cYODH;cKAPH;cLAMEDH;cMEM;cNUN;cSAMEKH;cAYIN;cPE;cSADHE;cQOPH
10853;IMPERIAL ARAMAIC LETTER RESH;cSHIN;cTAW
10857;IMPERIAL ARAMAIC SECTION SIGN;bNUMBER ONE;cTWO;cTHREE;cTEN;cTWENTY;cONE HUNDRED;dTHOUSAND
1085F;IMPERIAL ARAMAIC NUMBER TEN THOUSAND;PALMYRENE LETTER ALEPH;bBETH;bGIMEL;bDALETH;bHE;bWAW
10866;PALMYRENE LETTER ZAYIN;bHETH;bTETH;bYODH;bKAPH;bLAMEDH;bMEM;bFINAL NUN;bNUN;bSAMEKH;bAYIN
10871;PALMYRENE LETTER PE;bSADHE;bQOPH;bRESH;bSHIN;bTAW;aLEFT-POINTING FLEURON
10878;PALMYRENE RIGHT-POINTING FLEURON;aNUMBER ONE;bTWO;bTHREE;bFOUR;bFIVE;bTEN;bTWENTY
10880;NABATAEAN LETTER FINAL ALEPH;bALEPH;bFINAL BETH;bBETH;bGIMEL;bDALETH;bFINAL HE;bHE;bWAW
10889;NABATAEAN LETTER ZAYIN;bHETH;bTETH;bFINAL YODH;bYODH;bFINAL KAPH;bKAPH;bFINAL LAMEDH;bLAMEDH
10892;NABATAEAN LETTER FINAL MEM;bMEM;bFINAL NUN;bNUN;bSAMEKH;bAYIN;bPE;bSADHE;bQOPH;bRESH
1089C;NABATAEAN LETTER FINAL SHIN;bSHIN;bTAW
108A7;NABATAEAN NUMBER ONE;bTWO;bTHREE;bFOUR;aCRUCIFORM NUMBER FOUR;aNUMBER FIVE;bTEN;bTWENTY
108AF;NABATAEAN NUMBER ONE HUNDRED
108E0;HATRAN LETTER ALEPH;bBETH;bGIMEL;bDALETH-RESH;bHE;bWAW;bZAYN;bHETH;bTETH;bYODH;bKAPH;bLAMEDH
108EC;HATRAN LETTER MEM;bNUN;bSAMEKH;bAYN;bPE;bSADHE;bQOPH
108F4;HATRAN LETTER SHIN;bTAW
108FB;HATRAN NUMBER ONE;bFIVE;bTEN;bTWENTY;bONE HUNDRED;PHOENICIAN LETTER ALF;bBET;bGAML;bDELT;bHE
10905;PHOENICIAN LETTER WAU;bZAI;bHET;bTET;bYOD;bKAF;bLAMD;bMEM;bNUN;bSEMK;bAIN;bPE;bSADE;bQOF
10913;PHOENICIAN LETTER ROSH;bSHIN;bTAU;aNUMBER ONE;bTEN;bTWENTY;bONE HUNDRED;bTWO;bTHREE
1091F;PHOENICIAN WORD SEPARATOR;LYDIAN LETTER A;bB;bG;bD;bE;bV;bI;bY;bK;bL;bM;bN;bO;bR;bSS;bT;bU
10931;LYDIAN LETTER F;bQ;bS;bTT;bAN;bEN;bLY;bNN;bC
1093F;LYDIAN TRIANGULAR MARK
10980;MEROITIC HIEROGLYPHIC LETTER A;cE;cI;cO;cYA;cWA;cBA;cBA-2;cPA;cMA;cNA;cNA-2;cNE;cNE-2;cRA
1098F;MEROITIC HIEROGLYPHIC LETTER RA-2;cLA;cKHA;cHHA;cSA;cSA-2;cSE;cKA;cQA;cTA;cTA-2;cTE;cTE-2
1099C;MEROITIC HIEROGLYPHIC LETTER TO;cDA;bSYMBOL VIDJ;cVIDJ-2;aCURSIVE LETTER A;cE;cI;cO;cYA;cWA
109A6;MEROITIC CURSIVE LETTER BA;cPA;cMA;cNA;cNE;cRA;cLA;cKHA;cHHA;cSA;cARCHAIC SA;cSE;cKA;cQA;cTA
109B5;MEROITIC CURSIVE LETTER TE;cTO;cDA
109BC;MEROITIC CURSIVE FRACTION ELEVEN TWELFTHS;cONE HALF;bLOGOGRAM RMT;cIMN;bNUMBER ONE;cTWO
109C2;MEROITIC CURSIVE NUMBER THREE;cFOUR;cFIVE;cSIX;cSEVEN;cEIGHT;cNINE;cTEN;cTWENTY;cTHIRTY
109CC;MEROITIC CURSIVE NUMBER FORTY;cFIFTY;cSIXTY;cSEVENTY
109D2;MEROITIC CURSIVE NUMBER ONE HUNDRED;cTWO HUNDRED;cTHREE HUNDRED;cFOUR HUNDRED;cFIVE HUNDRED
109D7;MEROITIC CURSIVE NUMBER SIX HUNDRED;cSEVEN HUNDRED;cEIGHT HUNDRED;cNINE HUNDRED
109DB;MEROITIC CURSIVE NUMBER ONE THOUSAND;cTWO THOUSAND;cTHREE THOUSAND;cFOUR THOUSAND
109DF;MEROITIC CURSIVE NUMBER FIVE THOUSAND;cSIX THOUSAND;cSEVEN THOUSAND;cEIGHT THOUSAND
109E3;MEROITIC CURSIVE NUMBER NINE THOUSAND;cTEN THOUSAND;cTWENTY THOUSAND;cTHIRTY THOUSAND
109E7;MEROITIC CURSIVE NUMBER FORTY THOUSAND;cFIFTY THOUSAND;cSIXTY THOUSAND;cSEVENTY THOUSAND
109EB;MEROITIC CURSIVE NUMBER EIGHTY THOUSAND;cNINETY THOUSAND;cONE HUNDRED THOUSAND
109EE;MEROITIC CURSIVE NUMBER TWO HUNDRED THOUSAND;cTHREE HUNDRED THOUSAND;cFOUR HUNDRED THOUSAND
109F1;MEROITIC CURSIVE NUMBER FIVE HUNDRED THOUSAND;cSIX HUNDRED THOUSAND;cSEVEN HUNDRED THOUSAND
109F4;MEROITIC CURSIVE NUMBER EIGHT HUNDRED THOUSAND;cNINE HUNDRED THOUSAND;bFRACTION ONE TWELFTH
109F7;MEROITIC CURSIVE FRACTION TWO TWELFTHS;cTHREE TWELFTHS;cFOUR TWELFTHS;cFIVE TWELFTHS
109FB;MEROITIC CURSIVE FRACTION SIX TWELFTHS;cSEVEN TWELFTHS;cEIGHT TWELFTHS;cNINE TWELFTHS
109FF;MEROITIC CURSIVE FRACTION TEN TWELFTHS;KHAROSHTHI LETTER A;aVOWEL SIGN I;cU;cVOCALIC R
10A05;KHAROSHTHI VOWEL SIGN E;cO
10A0C;KHAROSHTHI VOWEL LENGTH MARK;aSIGN DOUBLE RING BELOW;bANUSVARA;bVISARGA;aLETTER KA;bKHA;bGA
10A13;KHAROSHTHI LETTER GHA
10A15;KHAROSHTHI LETTER CA;bCHA;bJA
10A19;KHAROSHTHI LETTER NYA;bTTA;bTTHA;bDDA;bDDHA;bNNA;bTA;bTHA;bDA;bDHA;bNA;bPA;bPHA;bBA;bBHA;bMA
10A29;KHAROSHTHI LETTER YA;bRA;bLA;bVA;bSHA;bSSA;bSA;bZA;bHA;bKKA;bTTTHA;bTTTA;bVHA
10A38;KHAROSHTHI SIGN BAR ABOVE;bCAUDA;bDOT BELOW
10A3F;KHAROSHTHI VIRAMA;aDIGIT ONE;bTWO;bTHREE;bFOUR;aNUMBER TEN;bTWENTY;bONE HUNDRED;cTHOUSAND
10A48;KHAROSHTHI FRACTION ONE HALF
10A50;KHAROSHTHI PUNCTUATION DOT;bSMALL CIRCLE;bCIRCLE;bCRESCENT BAR;bMANGALAM;bLOTUS;bDANDA
10A57;KHAROSHTHI PUNCTUATION DOUBLE DANDA;bLINES
10A60;OLD SOUTH ARABIAN LETTER HE;dLAMEDH;dHETH;dMEM;dQOPH;dWAW;dSHIN;dRESH;dBETH;dTAW;dSAT;dKAPH
10A6C;OLD SOUTH ARABIAN LETTER NUN;dKHETH;dSADHE;dSAMEKH;dFE;dALEF;dAYN;dDHADHE;dGIMEL;dDALETH
10A76;OLD SOUTH ARABIAN LETTER GHAYN;dTETH;dZAYN;dDHALETH;dYODH;dTHAW;dTHETH;cNUMBER ONE;dFIFTY
10A7F;OLD SOUTH ARABIAN NUMERIC INDICATOR;aNORTH ARABIAN LETTER HEH;dLAM;dHAH;dMEEM;dQAF;dWAW
10A86;OLD NORTH ARABIAN LETTER ES-2;dREH;dBEH;dTEH;dES-1;dKAF;dNOON;dKHAH;dSAD;dES-3;dFEH;dALEF
10A92;OLD NORTH ARABIAN LETTER AIN;dDAD;dGEEM;dDAL;dGHAIN;dTAH;dZAIN;dTHAL;dYEH;dTHEH;dZAH
10A9D;OLD NORTH ARABIAN NUMBER ONE;dTEN;dTWENTY
10AC0;MANICHAEAN LETTER ALEPH;bBETH;bBHETH;bGIMEL;bGHIMEL;bDALETH;bHE;bWAW;aSIGN UD;aLETTER ZAYIN
10ACA;MANICHAEAN LETTER ZHAYIN;bJAYIN;bJHAYIN;bHETH;bTETH;bYODH;bKAPH;bXAPH;bKHAPH;bLAMEDH
10AD4;MANICHAEAN LETTER DHAMEDH;bTHAMEDH;bMEM;bNUN;bSAMEKH;bAYIN;bAAYIN;bPE;bFE;bSADHE;bQOPH;bXOPH
10AE0;MANICHAEAN LETTER QHOPH;bRESH;bSHIN;bSSHIN;bTAW;aABBREVIATION MARK ABOVE;cBELOW
10AEB;MANICHAEAN NUMBER ONE;bFIVE;bTEN;bTWENTY;bONE HUNDRED;aPUNCTUATION STAR;bFLEURON
10AF2;MANICHAEAN PUNCTUATION DOUBLE DOT WITHIN DOT;bDOT WITHIN DOT;bDOT;bTWO DOTS;bLINE FILLER
10B00;AVESTAN LETTER A;bAA;bAO;bAAO;bAN;bAAN;bAE;bAEE;bE;bEE;bO;bOO;bI;bII;bU;bUU;bKE;bXE;bXYE
10B13;AVESTAN LETTER XVE;bGE;bGGE;bGHE;bCE;bJE;bTE;bTHE;bDE;bDHE;bTTE;bPE;bFE;bBE;bBHE;bNGE;bNGYE
10B24;AVESTAN LETTER NGVE;bNE;bNYE;bNNE;bME;bHME;bYYE;bYE;bVE;bRE;bLE;bSE;bZE;bSHE;bZHE;bSHYE
10B34;AVESTAN LETTER SSHE;bHE
10B39;AVESTAN ABBREVIATION MARK;TINY TWO DOTS OVER ONE DOT PUNCTUATION
10B3B;SMALL TWO DOTS OVER ONE DOT PUNCTUATION;LARGE TWO DOTS OVER ONE DOT PUNCTUATION
10B3D;LARGE ONE DOT OVER TWO DOTS PUNCTUATION;aTWO RINGS OVER ONE RING PUNCTUATION
10B3F;LARGE ONE RING OVER TWO RINGS PUNCTUATION;INSCRIPTIONAL PARTHIAN LETTER ALEPH;cBETH;cGIMEL
10B43;INSCRIPTIONAL PARTHIAN LETTER DALETH;cHE;cWAW;cZAYIN;cHETH;cTETH;cYODH;cKAPH;cLAMEDH;cMEM
10B4D;INSCRIPTIONAL PARTHIAN LETTER NUN;cSAMEKH;cAYIN;cPE;cSADHE;cQOPH;cRESH;cSHIN;cTAW
10B58;INSCRIPTIONAL PARTHIAN NUMBER ONE;cTWO;cTHREE;cFOUR;cTEN;cTWENTY;cONE HUNDRED;dTHOUSAND
10B60;INSCRIPTIONAL PAHLAVI LETTER ALEPH;cBETH;cGIMEL;cDALETH;cHE;cWAW-AYIN-RESH;cZAYIN;cHETH
10B68;INSCRIPTIONAL PAHLAVI LETTER TETH;cYODH;cKAPH;cLAMEDH;cMEM-QOPH;cNUN;cSAMEKH;cPE;cSADHE
10B71;INSCRIPTIONAL PAHLAVI LETTER SHIN;cTAW
10B78;INSCRIPTIONAL PAHLAVI NUMBER ONE;cTWO;cTHREE;cFOUR;cTEN;cTWENTY;cONE HUNDRED;dTHOUSAND
10B80;PSALTER PAHLAVI LETTER ALEPH;cBETH;cGIMEL;cDALETH;cHE;cWAW-AYIN-RESH;cZAYIN;cHETH;cYODH
10B89;PSALTER PAHLAVI LETTER KAPH;cLAMEDH;cMEM-QOPH;cNUN;cSAMEKH;cPE;cSADHE;cSHIN;cTAW
10B99;PSALTER PAHLAVI SECTION MARK;bTURNED SECTION MARK;bFOUR DOTS WITH CROSS;eDOT
10BA9;PSALTER PAHLAVI NUMBER ONE;cTWO;cTHREE;cFOUR;cTEN;cTWENTY;cONE HUNDRED
10C00;OLD TURKIC LETTER ORKHON A;cYENISEI A;dAE;cORKHON I;cYENISEI I;dE;cORKHON O;dOE;cYENISEI OE
10C09;OLD TURKIC LETTER ORKHON AB;cYENISEI AB;cORKHON AEB;cYENISEI AEB;cORKHON AG;cYENISEI AG
10C0F;OLD TURKIC LETTER ORKHON AEG;cYENISEI AEG;cORKHON AD;cYENISEI AD;cORKHON AED;dEZ;cYENISEI EZ
10C16;OLD TURKIC LETTER ORKHON AY;cYENISEI AY;cORKHON AEY;cYENISEI AEY;cORKHON AEK;cYENISEI AEK
10C1C;OLD TURKIC LETTER ORKHON OEK;cYENISEI OEK;cORKHON AL;cYENISEI AL;cORKHON AEL;dELT;dEM;dAN
10C24;OLD TURKIC LETTER ORKHON AEN;cYENISEI AEN;cORKHON ENT;cYENISEI ENT;cORKHON ENC;cYENISEI ENC
10C2A;OLD TURKIC LETTER ORKHON ENY;cYENISEI ENY;dANG;cORKHON ENG;cYENISEI AENG;cORKHON EP;dOP;dIC
10C32;OLD TURKIC LETTER ORKHON EC;cYENISEI EC;cORKHON AQ;cYENISEI AQ;cORKHON IQ;cYENISEI IQ
10C38;OLD TURKIC LETTER ORKHON OQ;cYENISEI OQ;cORKHON AR;cYENISEI AR;cORKHON AER;dAS;dAES;dASH
10C40;OLD TURKIC LETTER YENISEI ASH;cORKHON ESH;cYENISEI ESH;cORKHON AT;cYENISEI AT;cORKHON AET
10C46;OLD TURKIC LETTER YENISEI AET;cORKHON OT;dBASH
10C80;OLD HUNGARIAN CAPITAL LETTER A;dAA;dEB;dAMB;dEC;dENC;dECS;dED;dAND;dE;dCLOSE E;dEE;dEF;dEG
10C8E;OLD HUNGARIAN CAPITAL LETTER EGY;dEH;dI;dII;dEJ;dEK;dAK;dUNK;dEL;dELY;dEM;dEN;dENY;dO;dOO
10C9D;OLD HUNGARIAN CAPITAL LETTER NIKOLSBURG OE;dRUDIMENTA OE;dOEE;dEP;dEMP;dER;dSHORT ER;dES
10CA5;OLD HUNGARIAN CAPITAL LETTER ESZ;dET;dENT;dETY;dECH;dU;dUU;dNIKOLSBURG UE;dRUDIMENTA UE;dEV
10CAF;OLD HUNGARIAN CAPITAL LETTER EZ;dEZS;dENT-SHAPED SIGN;dUS
10CC0;OLD HUNGARIAN SMALL LETTER A;dAA;dEB;dAMB;dEC;dENC;dECS;dED;dAND;dE;dCLOSE E;dEE;dEF;dEG
10CCE;OLD HUNGARIAN SMALL LETTER EGY;dEH;dI;dII;dEJ;dEK;dAK;dUNK;dEL;dELY;dEM;dEN;dENY;dO;dOO
10CDD;OLD HUNGARIAN SMALL LETTER NIKOLSBURG OE;dRUDIMENTA OE;dOEE;dEP;dEMP;dER;dSHORT ER;dES;dESZ
10CE6;OLD HUNGARIAN SMALL LETTER ET;dENT;dETY;dECH;dU;dUU;dNIKOLSBURG UE;dRUDIMENTA UE;dEV;dEZ
10CF0;OLD HUNGARIAN SMALL LETTER EZS;dENT-SHAPED SIGN;dUS
10CFA;OLD HUNGARIAN NUMBER ONE;cFIVE;cTEN;cFIFTY;cONE HUNDRED;dTHOUSAND;HANIFI ROHINGYA LETTER A
10D01;HANIFI ROHINGYA LETTER BA;cPA;cTA;cTTA;cJA;cCA;cHA;cKHA;cFA;cDA;cDDA;cRA;cRRA;cZA;cSA;cSHA
10D11;HANIFI ROHINGYA LETTER KA;cGA;cLA;cMA;cNA;cWA;cKINNA WA;cYA;cKINNA YA;cNGA;cNYA;cVA;bVOWEL A
10D1E;HANIFI ROHINGYA VOWEL I;cU;cE;cO;bMARK SAKIN;cNA KHONNA;bSIGN HARBAHAY;cTAHALA;cTANA;cTASSI
10D30;HANIFI ROHINGYA DIGIT ZERO;cONE;cTWO;cTHREE;cFOUR;cFIVE;cSIX;cSEVEN;cEIGHT;cNINE
10E60;RUMI DIGIT ONE;bTWO;bTHREE;bFOUR;bFIVE;bSIX;bSEVEN;bEIGHT;bNINE;aNUMBER TEN;bTWENTY;bTHIRTY
10E6C;RUMI NUMBER FORTY;bFIFTY;bSIXTY;bSEVENTY;bEIGHTY;bNINETY;bONE HUNDRED;bTWO HUNDRED
10E74;RUMI NUMBER THREE HUNDRED;bFOUR HUNDRED;bFIVE HUNDRED;bSIX HUNDRED;bSEVEN HUNDRED
10E79;RUMI NUMBER EIGHT HUNDRED;bNINE HUNDRED;aFRACTION ONE HALF;cQUARTER;cTHIRD;bTWO THIRDS
10E80;YEZIDI LETTER ELIF;bBE;bPE;bPHE;bTHE;bSE;bCIM;bCHIM;bCHHIM;bHHA;bXA;bDAL;bZAL;bRA;bRHA;bZA
10E90;YEZIDI LETTER JA;bSIN;bSHIN;bSAD;bDAD;bTA;bZE;bEYN;bXHEYN;bFA;bVA;cALTERNATE FORM;bQAF;bKAF
10E9E;YEZIDI LETTER KHAF;bGAF;bLAM;bMIM;bNUN;bUM;bWAW;bOW;bEW;bHAY;bYOT;bET
10EAB;YEZIDI COMBINING HAMZA MARK;bMADDA MARK;aHYPHENATION MARK
10EB0;YEZIDI LETTER LAM WITH DOT ABOVE;bYOT WITH CIRCUMFLEX ABOVE
10F00;OLD SOGDIAN LETTER ALEPH;cFINAL ALEPH;cBETH;cFINAL BETH;cGIMEL;cHE;cFINAL HE;cWAW;cZAYIN
10F09;OLD SOGDIAN LETTER HETH;cYODH;cKAPH;cLAMEDH;cMEM;cNUN;cFINAL NUN;eWITH VERTICAL TAIL;cSAMEKH
10F12;OLD SOGDIAN LETTER AYIN;cALTERNATE AYIN;cPE;cSADHE;cFINAL SADHE;eWITH VERTICAL TAIL
10F18;OLD SOGDIAN LETTER RESH-AYIN-DALETH;cSHIN;cTAW;cFINAL TAW;eWITH VERTICAL TAIL;bNUMBER ONE
10F1E;OLD SOGDIAN NUMBER TWO;cTHREE;cFOUR;cFIVE;cTEN;cTWENTY;cTHIRTY;cONE HUNDRED
10F26;OLD SOGDIAN FRACTION ONE HALF;bLIGATURE AYIN-DALETH
10F30;SOGDIAN LETTER ALEPH;bBETH;bGIMEL;bHE;bWAW;bZAYIN;bHETH;bYODH;bKAPH;bLAMEDH;bMEM;bNUN
10F3C;SOGDIAN LETTER SAMEKH;bAYIN;bPE;bSADHE;bRESH-AYIN;bSHIN;bTAW;bFETH;bLESH;aINDEPENDENT SHIN
10F46;SOGDIAN COMBINING DOT BELOW;bTWO DOTS BELOW;bDOT ABOVE;bTWO DOTS ABOVE;bCURVE ABOVE;cBELOW
10F4C;SOGDIAN COMBINING HOOK ABOVE;cBELOW;bLONG HOOK BELOW;bRESH BELOW;bSTROKE BELOW;aNUMBER ONE
10F52;SOGDIAN NUMBER TEN;bTWENTY;bONE HUNDRED;aPUNCTUATION TWO VERTICAL BARS;eWITH DOTS
10F57;SOGDIAN PUNCTUATION CIRCLE WITH DOT;bTWO CIRCLES WITH DOTS;bHALF CIRCLE WITH DOT
10F70;OLD UYGHUR LETTER ALEPH;cBETH;cGIMEL-HETH;cWAW;cZAYIN;cFINAL HETH;cYODH;cKAPH;cLAMEDH;cMEM
10F7A;OLD UYGHUR LETTER NUN;cSAMEKH;cPE;cSADHE;cRESH;cSHIN;cTAW;cLESH;bCOMBINING DOT ABOVE;dBELOW
10F84;OLD UYGHUR COMBINING TWO DOTS ABOVE;eBELOW;bPUNCTUATION BAR;cTWO BARS;dDOTS;cFOUR DOTS
10FB0;CHORASMIAN LETTER ALEPH;bSMALL ALEPH;bBETH;bGIMEL;bDALETH;bHE;bWAW;bCURLED WAW;bZAYIN;bHETH
10FBA;CHORASMIAN LETTER YODH;bKAPH;bLAMEDH;bMEM;bNUN;bSAMEKH;bAYIN;bPE;bRESH;bSHIN;bTAW
10FC5;CHORASMIAN NUMBER ONE;bTWO;bTHREE;bFOUR;bTEN;bTWENTY;bONE HUNDRED
10FE0;ELYMAIC LETTER ALEPH;bBETH;bGIMEL;bDALETH;bHE;bWAW;bZAYIN;bHETH;bTETH;bYODH;bKAPH;bLAMEDH
10FEC;ELYMAIC LETTER MEM;bNUN;bSAMEKH;bAYIN;bPE;bSADHE;bQOPH;bRESH;bSHIN;bTAW;aLIGATURE ZAYIN-YODH
11000;BRAHMI SIGN CANDRABINDU;bANUSVARA;bVISARGA;bJIHVAMULIYA;bUPADHMANIYA;aLETTER A;bAA;bI;bII;bU
1100A;BRAHMI LETTER UU;bVOCALIC R;cRR;cL;cLL;bE;bAI;bO;bAU;bKA;bKHA;bGA;bGHA;bNGA;bCA;bCHA;bJA
1101B;BRAHMI LETTER JHA;bNYA;bTTA;bTTHA;bDDA;bDDHA;bNNA;bTA;bTHA;bDA;bDHA;bNA;bPA;bPHA;bBA;bBHA
1102B;BRAHMI LETTER MA;bYA;bRA;bLA;bVA;bSHA;bSSA;bSA;bHA;bLLA;bOLD TAMIL LLLA;dRRA;dNNNA
11038;BRAHMI VOWEL SIGN AA;cBHATTIPROLU AA;cI;cII;cU;cUU;cVOCALIC R;dRR;dL;dLL;cE;cAI;cO;cAU
11046;BRAHMI VIRAMA;aDANDA;aDOUBLE DANDA;aPUNCTUATION DOT;bDOUBLE DOT;bLINE;bCRESCENT BAR;bLOTUS
11052;BRAHMI NUMBER ONE;bTWO;bTHREE;bFOUR;bFIVE;bSIX;bSEVEN;bEIGHT;bNINE;bTEN;bTWENTY;bTHIRTY
1105E;BRAHMI NUMBER FORTY;bFIFTY;bSIXTY;bSEVENTY;bEIGHTY;bNINETY;bONE HUNDRED;cTHOUSAND
11066;BRAHMI DIGIT ZERO;bONE;bTWO;bTHREE;bFOUR;bFIVE;bSIX;bSEVEN;bEIGHT;bNINE
11070;BRAHMI SIGN OLD TAMIL VIRAMA;aLETTER OLD TAMIL SHORT E;eO;aVOWEL SIGN OLD TAMIL SHORT E;fO
11075;BRAHMI LETTER OLD TAMIL LLA
1107F;BRAHMI NUMBER JOINER;KAITHI SIGN CANDRABINDU;bANUSVARA;bVISARGA;aLETTER A;bAA;bI;bII;bU;bUU
11089;KAITHI LETTER E;bAI;bO;bAU;bKA;bKHA;bGA;bGHA;bNGA;bCA;bCHA;bJA;bJHA;bNYA;bTTA;bTTHA;bDDA
1109A;KAITHI LETTER DDDHA;bDDHA;bRHA;bNNA;bTA;bTHA;bDA;bDHA;bNA;bPA;bPHA;bBA;bBHA;bMA;bYA;bRA;bLA
110AB;KAITHI LETTER VA;bSHA;bSSA;bSA;bHA;aVOWEL SIGN AA;cI;cII;cU;cUU;cE;cAI;cO;cAU;aSIGN VIRAMA
110BA;KAITHI SIGN NUKTA;aABBREVIATION SIGN;aENUMERATION SIGN;aNUMBER SIGN;aSECTION MARK
110BF;KAITHI DOUBLE SECTION MARK;aDANDA;aDOUBLE DANDA;aVOWEL SIGN VOCALIC R
110CD;KAITHI NUMBER SIGN ABOVE
110D0;SORA SOMPENG LETTER SAH;cTAH;cBAH;cCAH;cDAH;cGAH;cMAH;cNGAH;cLAH;cNAH;cVAH;cPAH;cYAH;cRAH
110DE;SORA SOMPENG LETTER HAH;cKAH;cJAH;cNYAH;cAH;cEEH;cIH;cUH;cOH;cEH;cMAE
110F0;SORA SOMPENG DIGIT ZERO;cONE;cTWO;cTHREE;cFOUR;cFIVE;cSIX;cSEVEN;cEIGHT;cNINE
11100;CHAKMA SIGN CANDRABINDU;bANUSVARA;bVISARGA;aLETTER AA;bI;bU;bE;bKAA;bKHAA;bGAA;bGHAA;bNGAA
1110C;CHAKMA LETTER CAA;bCHAA;bJAA;bJHAA;bNYAA;bTTAA;bTTHAA;bDDAA;bDDHAA;bNNAA;bTAA;bTHAA;bDAA
11119;CHAKMA LETTER DHAA;bNAA;bPAA;bPHAA;bBAA;bBHAA;bMAA;bYYAA;bYAA;bRAA;bLAA;bWAA;bSAA;bHAA
11127;CHAKMA VOWEL SIGN A;cI;cII;cU;cUU;cE;cAI;cO;cAU;cOI;aO MARK;aAU MARK;aVIRAMA;aMAAYYAA
11136;CHAKMA DIGIT ZERO;bONE;bTWO;bTHREE;bFOUR;bFIVE;bSIX;bSEVEN;bEIGHT;bNINE;aSECTION MARK;aDANDA
11142;CHAKMA DOUBLE DANDA;aQUESTION MARK;aLETTER LHAA;aVOWEL SIGN AA;cEI;aLETTER VAA
11150;MAHAJANI LETTER A;bI;bU;bE;bO;bKA;bKHA;bGA;bGHA;bCA;bCHA;bJA;bJHA;bNYA;bTTA;bTTHA;bDDA;bDDHA
11162;MAHAJANI LETTER NNA;bTA;bTHA;bDA;bDHA;bNA;bPA;bPHA;bBA;bBHA;bMA;bRA;bLA;bVA;bSA;bHA;bRRA
11173;MAHAJANI SIGN NUKTA;aABBREVIATION SIGN;aSECTION MARK;aLIGATURE SHRI
11180;SHARADA SIGN CANDRABINDU;bANUSVARA;bVISARGA;aLETTER A;bAA;bI;bII;bU;bUU;bVOCALIC R;cRR;cL
1118C;SHARADA LETTER VOCALIC LL;bE;bAI;bO;bAU;bKA;bKHA;bGA;bGHA;bNGA;bCA;bCHA;bJA;bJHA;bNYA;bTTA
1119C;SHARADA LETTER TTHA;bDDA;bDDHA;bNNA;bTA;bTHA;bDA;bDHA;bNA;bPA;bPHA;bBA;bBHA;bMA;bYA;bRA;bLA
111AD;SHARADA LETTER LLA;bVA;bSHA;bSSA;bSA;bHA;aVOWEL SIGN AA;cI;cII;cU;cUU;cVOCALIC R;dRR;dL;dLL
111BC;SHARADA VOWEL SIGN E;cAI;cO;cAU;aSIGN VIRAMA;bAVAGRAHA;bJIHVAMULIYA;bUPADHMANIYA;aOM;aDANDA
111C6;SHARADA DOUBLE DANDA;aABBREVIATION SIGN;aSEPARATOR;aSANDHI MARK;aSIGN NUKTA
111CB;SHARADA VOWEL MODIFIER MARK;aEXTRA SHORT VOWEL MARK;aSUTRA MARK;aVOWEL SIGN PRISHTHAMATRA E
111CF;SHARADA SIGN INVERTED CANDRABINDU;aDIGIT ZERO;bONE;bTWO;bTHREE;bFOUR;bFIVE;bSIX;bSEVEN
111D8;SHARADA DIGIT EIGHT;bNINE;aEKAM;aSIGN SIDDHAM;aHEADSTROKE;aCONTINUATION SIGN;aSECTION MARK-1
111DF;SHARADA SECTION MARK-2
111E1;SINHALA ARCHAIC DIGIT ONE;cTWO;cTHREE;cFOUR;cFIVE;cSIX;cSEVEN;cEIGHT;cNINE;bNUMBER TEN
111EB;SINHALA ARCHAIC NUMBER TWENTY;cTHIRTY;cFORTY;cFIFTY;cSIXTY;cSEVENTY;cEIGHTY;cNINETY
111F3;SINHALA ARCHAIC NUMBER ONE HUNDRED;dTHOUSAND
11200;KHOJKI LETTER A;bAA;bI;bU;bE;bAI;bO;bAU;bKA;bKHA;bGA;bGGA;bGHA;bNGA;bCA;bCHA;bJA;bJJA
11213;KHOJKI LETTER NYA;bTTA;bTTHA;bDDA;bDDHA;bNNA;bTA;bTHA;bDA;bDDDA;bDHA;bNA;bPA;bPHA;bBA;bBBA
11223;KHOJKI LETTER BHA;bMA;bYA;bRA;bLA;bVA;bSA;bHA;bLLA;aVOWEL SIGN AA;cI;cII;cU;cE;cAI;cO;cAU
11234;KHOJKI SIGN ANUSVARA;bVIRAMA;bNUKTA;bSHADDA;aDANDA;aDOUBLE DANDA;aWORD SEPARATOR
1123B;KHOJKI SECTION MARK;aDOUBLE SECTION MARK;aABBREVIATION SIGN;aSIGN SUKUN
11280;MULTANI LETTER A;bI;bU;bE;bKA;bKHA;bGA
11288;MULTANI LETTER GHA
1128A;MULTANI LETTER CA;bCHA;bJA;bJJA
1128F;MULTANI LETTER NYA;bTTA;bTTHA;bDDA;bDDDA;bDDHA;bNNA;bTA;bTHA;bDA;bDHA;bNA;bPA;bPHA;bBA
1129F;MULTANI LETTER BHA;bMA;bYA;bRA;bLA;bVA;bSA;bHA;bRRA;bRHA;aSECTION MARK
112B0;KHUDAWADI LETTER A;bAA;bI;bII;bU;bUU;bE;bAI;bO;bAU;bKA;bKHA;bGA;bGGA;bGHA;bNGA;bCA;bCHA;bJA
112C3;KHUDAWADI LETTER JJA;bJHA;bNYA;bTTA;bTTHA;bDDA;bDDDA;bRRA;bDDHA;bNNA;bTA;bTHA;bDA;bDHA;bNA
112D2;KHUDAWADI LETTER PA;bPHA;bBA;bBBA;bBHA;bMA;bYA;bRA;bLA;bVA;bSHA;bSA;bHA;aSIGN ANUSVARA
112E0;KHUDAWADI VOWEL SIGN AA;cI;cII;cU;cUU;cE;cAI;cO;cAU;aSIGN NUKTA;bVIRAMA
112F0;KHUDAWADI DIGIT ZERO;bONE;bTWO;bTHREE;bFOUR;bFIVE;bSIX;bSEVEN;bEIGHT;bNINE
11300;GRANTHA SIGN COMBINING ANUSVARA ABOVE;bCANDRABINDU;bANUSVARA;bVISARGA
11305;GRANTHA LETTER A;bAA;bI;bII;bU;bUU;bVOCALIC R;cL
1130F;GRANTHA LETTER EE;bAI
11313;GRANTHA LETTER OO;bAU;bKA;bKHA;bGA;bGHA;bNGA;bCA;bCHA;bJA;bJHA;bNYA;bTTA;bTTHA;bDDA;bDDHA
11323;GRANTHA LETTER NNA;bTA;bTHA;bDA;bDHA;bNA
1132A;GRANTHA LETTER PA;bPHA;bBA;bBHA;bMA;bYA;bRA
11332;GRANTHA LETTER LA;bLLA
11335;GRANTHA LETTER VA;bSHA;bSSA;bSA;bHA
1133B;COMBINING BINDU BELOW;GRANTHA SIGN NUKTA;bAVAGRAHA;aVOWEL SIGN AA;cI;cII;cU;cUU;cVOCALIC R
11344;GRANTHA VOWEL SIGN VOCALIC RR
11347;GRANTHA VOWEL SIGN EE;cAI
1134B;GRANTHA VOWEL SIGN OO;cAU;aSIGN VIRAMA
11350;GRANTHA OM
11357;GRANTHA AU LENGTH MARK
1135D;GRANTHA SIGN PLUTA;aLETTER VEDIC ANUSVARA;cDOUBLE ANUSVARA;bVOCALIC RR;cLL
11362;GRANTHA VOWEL SIGN VOCALIC L;dLL
11366;COMBINING GRANTHA DIGIT ZERO;cONE;cTWO;cTHREE;cFOUR;cFIVE;cSIX
11370;COMBINING GRANTHA LETTER A;cKA;cNA;cVI;cPA
11400;NEWA LETTER A;bAA;bI;bII;bU;bUU;bVOCALIC R;cRR;cL;cLL;bE;bAI;bO;bAU;bKA;bKHA;bGA;bGHA;bNGA
11413;NEWA LETTER NGHA;bCA;bCHA;bJA;bJHA;bNYA;bNYHA;bTTA;bTTHA;bDDA;bDDHA;bNNA;bTA;bTHA;bDA;bDHA
11423;NEWA LETTER NA;bNHA;bPA;bPHA;bBA;bBHA;bMA;bMHA;bYA;bRA;bRHA;bLA;bLHA;bWA;bSHA;bSSA;bSA;bHA
11435;NEWA VOWEL SIGN AA;cI;cII;cU;cUU;cVOCALIC R;dRR;dL;dLL;cE;cAI;cO;cAU;aSIGN VIRAMA
11443;NEWA SIGN CANDRABINDU;bANUSVARA;bVISARGA;bNUKTA;bAVAGRAHA;bFINAL ANUSVARA;aOM;aSIDDHI;aDANDA
1144C;NEWA DOUBLE DANDA;aCOMMA;aGAP FILLER;aABBREVIATION SIGN;aDIGIT ZERO;bONE;bTWO;bTHREE;bFOUR
11455;NEWA DIGIT FIVE;bSIX;bSEVEN;bEIGHT;bNINE;aDOUBLE COMMA;aPLACEHOLDER MARK
1145D;NEWA INSERTION SIGN;aSANDHI MARK;aLETTER VEDIC ANUSVARA;aSIGN JIHVAMULIYA;bUPADHMANIYA
11480;TIRHUTA ANJI;aLETTER A;bAA;bI;bII;bU;bUU;bVOCALIC R;cRR;cL;cLL;bE;bAI;bO;bAU;bKA;bKHA;bGA
11492;TIRHUTA LETTER GHA;bNGA;bCA;bCHA;bJA;bJHA;bNYA;bTTA;bTTHA;bDDA;bDDHA;bNNA;bTA;bTHA;bDA;bDHA
114A2;TIRHUTA LETTER NA;bPA;bPHA;bBA;bBHA;bMA;bYA;bRA;bLA;bVA;bSHA;bSSA;bSA;bHA;aVOWEL SIGN AA;cI
114B2;TIRHUTA VOWEL SIGN II;cU;cUU;cVOCALIC R;dRR;dL;dLL;cE;cSHORT E;cAI;cO;cSHORT O;cAU
114BF;TIRHUTA SIGN CANDRABINDU;bANUSVARA;bVISARGA;bVIRAMA;bNUKTA;bAVAGRAHA;aGVANG
114C6;TIRHUTA ABBREVIATION SIGN;aOM
114D0;TIRHUTA DIGIT ZERO;bONE;bTWO;bTHREE;bFOUR;bFIVE;bSIX;bSEVEN;bEIGHT;bNINE
11580;SIDDHAM LETTER A;bAA;bI;bII;bU;bUU;bVOCALIC R;cRR;cL;cLL;bE;bAI;bO;bAU;bKA;bKHA;bGA;bGHA
11592;SIDDHAM LETTER NGA;bCA;bCHA;bJA;bJHA;bNYA;bTTA;bTTHA;bDDA;bDDHA;bNNA;bTA;bTHA;bDA;bDHA;bNA
115A2;SIDDHAM LETTER PA;bPHA;bBA;bBHA;bMA;bYA;bRA;bLA;bVA;bSHA;bSSA;bSA;bHA;aVOWEL SIGN AA;cI;cII
115B2;SIDDHAM VOWEL SIGN U;cUU;cVOCALIC R;dRR
115B8;SIDDHAM VOWEL SIGN E;cAI;cO;cAU;aSIGN CANDRABINDU;bANUSVARA;bVISARGA;bVIRAMA;bNUKTA;bSIDDHAM
115C2;SIDDHAM DANDA;aDOUBLE DANDA;aSEPARATOR DOT;bBAR;aREPETITION MARK-1;bMARK-2;bMARK-3
115C9;SIDDHAM END OF TEXT MARK;aSECTION MARK WITH TRIDENT AND U-SHAPED ORNAMENTS;fDOTTED CRESCENTS
115CC;SIDDHAM SECTION MARK WITH RAYS AND DOTTED CRESCENTS;gDOUBLE CRESCENTS;gTRIPLE CRESCENTS
115CF;SIDDHAM SECTION MARK DOUBLE RING;eWITH RAYS;cWITH DOUBLE CRESCENTS;dTRIPLE CRESCENTS
115D3;SIDDHAM SECTION MARK WITH QUADRUPLE CRESCENTS;dSEPTUPLE CRESCENTS;dCIRCLES AND RAYS
115D6;SIDDHAM SECTION MARK WITH CIRCLES AND TWO ENCLOSURES;fFOUR ENCLOSURES
115D8;SIDDHAM LETTER THREE-CIRCLE ALTERNATE I;bTWO-CIRCLE ALTERNATE I;dII;bALTERNATE U
115DC;SIDDHAM VOWEL SIGN ALTERNATE U;dUU
11600;MODI LETTER A;bAA;bI;bII;bU;bUU;bVOCALIC R;cRR;cL;cLL;bE;bAI;bO;bAU;bKA;bKHA;bGA;bGHA;bNGA
11613;MODI LETTER CA;bCHA;bJA;bJHA;bNYA;bTTA;bTTHA;bDDA;bDDHA;bNNA;bTA;bTHA;bDA;bDHA;bNA;bPA;bPHA
11624;MODI LETTER BA;bBHA;bMA;bYA;bRA;bLA;bVA;bSHA;bSSA;bSA;bHA;bLLA;aVOWEL SIGN AA;cI;cII;cU;cUU
11635;MODI VOWEL SIGN VOCALIC R;dRR;dL;dLL;cE;cAI;cO;cAU;aSIGN ANUSVARA;bVISARGA;bVIRAMA
11640;MODI SIGN ARDHACANDRA;aDANDA;aDOUBLE DANDA;aABBREVIATION SIGN;aSIGN HUVA
11650;MODI DIGIT ZERO;bONE;bTWO;bTHREE;bFOUR;bFIVE;bSIX;bSEVEN;bEIGHT;bNINE
11660;MONGOLIAN BIRGA WITH ORNAMENT;aROTATED BIRGA;aDOUBLE BIRGA WITH ORNAMENT
11663;MONGOLIAN TRIPLE BIRGA WITH ORNAMENT;aBIRGA WITH DOUBLE ORNAMENT
11665;MONGOLIAN ROTATED BIRGA WITH ORNAMENT;dDOUBLE ORNAMENT;aINVERTED BIRGA;cWITH DOUBLE ORNAMENT
11669;MONGOLIAN SWIRL BIRGA;cWITH ORNAMENT;dDOUBLE ORNAMENT
1166C;MONGOLIAN TURNED SWIRL BIRGA WITH DOUBLE ORNAMENT
11680;TAKRI LETTER A;bAA;bI;bII;bU;bUU;bE;bAI;bO;bAU;bKA;bKHA;bGA;bGHA;bNGA;bCA;bCHA;bJA;bJHA;bNYA
11694;TAKRI LETTER TTA;bTTHA;bDDA;bDDHA;bNNA;bTA;bTHA;bDA;bDHA;bNA;bPA;bPHA;bBA;bBHA;bMA;bYA;bRA
116A5;TAKRI LETTER LA;bVA;bSHA;bSA;bHA;bRRA;aSIGN ANUSVARA;bVISARGA;aVOWEL SIGN AA;cI;cII;cU;cUU
116B2;TAKRI VOWEL SIGN E;cAI;cO;cAU;aSIGN VIRAMA;bNUKTA;aLETTER ARCHAIC KHA;aABBREVIATION SIGN
116C0;TAKRI DIGIT ZERO;bONE;bTWO;bTHREE;bFOUR;bFIVE;bSIX;bSEVEN;bEIGHT;bNINE
11700;AHOM LETTER KA;bKHA;bNGA;bNA;bTA;bALTERNATE TA;bPA;bPHA;bBA;bMA;bJA;bCHA;bTHA;bRA;bLA;bSA
11710;AHOM LETTER NYA;bHA;bA;bDA;bDHA;bGA;bALTERNATE GA;bGHA;bBHA;bJHA;bALTERNATE BA
1171D;AHOM CONSONANT SIGN MEDIAL LA;dRA;dLIGATING RA;aVOWEL SIGN A;cAA;cI;cII;cU;cUU;cE;cAW;cO;cAI
1172A;AHOM VOWEL SIGN AM;aSIGN KILLER
11730;AHOM DIGIT ZERO;bONE;bTWO;bTHREE;bFOUR;bFIVE;bSIX;bSEVEN;bEIGHT;bNINE;aNUMBER TEN;bTWENTY
1173C;AHOM SIGN SMALL SECTION;bSECTION;bRULAI;aSYMBOL VI;aLETTER CA;bTTA;bTTHA;bDDA;bDDHA;bNNA
11746;AHOM LETTER LLA
11800;DOGRA LETTER A;bAA;bI;bII;bU;bUU;bE;bAI;bO;bAU;bKA;bKHA;bGA;bGHA;bNGA;bCA;bCHA;bJA;bJHA;bNYA
11814;DOGRA LETTER TTA;bTTHA;bDDA;bDDHA;bNNA;bTA;bTHA;bDA;bDHA;bNA;bPA;bPHA;bBA;bBHA;bMA;bYA;bRA
11825;DOGRA LETTER LA;bVA;bSHA;bSSA;bSA;bHA;bRRA;aVOWEL SIGN AA;cI;cII;cU;cUU;cVOCALIC R;dRR;cE
11834;DOGRA VOWEL SIGN AI;cO;cAU;aSIGN ANUSVARA;bVISARGA;bVIRAMA;bNUKTA;aABBREVIATION SIGN
118A0;WARANG CITI CAPITAL LETTER NGAA;dA;dWI;dYU;dYA;dYO;dII;dUU;dE;dO;dANG;dGA;dKO;dENY;dYUJ;dUC
118B0;WARANG CITI CAPITAL LETTER ENN;dODD;dTTE;dNUNG;dDA;dAT;dAM;dBU;dPU;dHIYO;dHOLO;dHORR;dHAR
118BD;WARANG CITI CAPITAL LETTER SSUU;dSII;dVIYO;bSMALL LETTER NGAA;dA;dWI;dYU;dYA;dYO;dII;dUU;dE
118C9;WARANG CITI SMALL LETTER O;dANG;dGA;dKO;dENY;dYUJ;dUC;dENN;dODD;dTTE;dNUNG;dDA;dAT;dAM;dBU
118D8;WARANG CITI SMALL LETTER PU;dHIYO;dHOLO;dHORR;dHAR;dSSUU;dSII;dVIYO;bDIGIT ZERO;cONE;cTWO
118E3;WARANG CITI DIGIT THREE;cFOUR;cFIVE;cSIX;cSEVEN;cEIGHT;cNINE;bNUMBER TEN;cTWENTY;cTHIRTY
118ED;WARANG CITI NUMBER FORTY;cFIFTY;cSIXTY;cSEVENTY;cEIGHTY;cNINETY
118FF;WARANG CITI OM;DIVES AKURU LETTER A;cAA;cI;cII;cU;cUU;cE
11909;DIVES AKURU LETTER O
1190C;DIVES AKURU LETTER KA;cKHA;cGA;cGHA;cNGA;cCA;cCHA;cJA
11915;DIVES AKURU LETTER NYA;cTTA
11918;DIVES AKURU LETTER DDA;cDDHA;cNNA;cTA;cTHA;cDA;cDHA;cNA;cPA;cPHA;cBA;cBHA;cMA;cYA;cYYA;cRA
11928;DIVES AKURU LETTER LA;cVA;cSHA;cSSA;cSA;cHA;cLLA;cZA;bVOWEL SIGN AA;dI;dII;dU;dUU;dE
11937;DIVES AKURU VOWEL SIGN AI;dO
1193B;DIVES AKURU SIGN ANUSVARA;cCANDRABINDU;cHALANTA;bVIRAMA;bPREFIXED NASAL SIGN;bMEDIAL YA
11941;DIVES AKURU INITIAL RA;bMEDIAL RA;bSIGN NUKTA;bDOUBLE DANDA;bGAP FILLER;bEND OF TEXT MARK
11950;DIVES AKURU DIGIT ZERO;cONE;cTWO;cTHREE;cFOUR;cFIVE;cSIX;cSEVEN;cEIGHT;cNINE
119A0;NANDINAGARI LETTER A;bAA;bI;bII;bU;bUU;bVOCALIC R;cRR
119AA;NANDINAGARI LETTER E;bAI;bO;bAU;bKA;bKHA;bGA;bGHA;bNGA;bCA;bCHA;bJA;bJHA;bNYA;bTTA;bTTHA
119BA;NANDINAGARI LETTER DDA;bDDHA;bNNA;bTA;bTHA;bDA;bDHA;bNA;bPA;bPHA;bBA;bBHA;bMA;bYA;bRA;bLA
119CA;NANDINAGARI LETTER VA;bSHA;bSSA;bSA;bHA;bLLA;bRRA;aVOWEL SIGN AA;cI;cII;cU;cUU;cVOCALIC R
119D7;NANDINAGARI VOWEL SIGN VOCALIC RR
119DA;NANDINAGARI VOWEL SIGN E;cAI;cO;cAU;aSIGN ANUSVARA;bVISARGA;bVIRAMA;bAVAGRAHA;bSIDDHAM
119E3;NANDINAGARI HEADSTROKE;aVOWEL SIGN PRISHTHAMATRA E
11A00;ZANABAZAR SQUARE LETTER A;bVOWEL SIGN I;dUE;dU;dE;dOE;dO;dAI;dAU;dREVERSED I;cLENGTH MARK
11A0B;ZANABAZAR SQUARE LETTER KA;cKHA;cGA;cGHA;cNGA;cCA;cCHA;cJA;cNYA;cTTA;cTTHA;cDDA;cDDHA;cNNA
11A19;ZANABAZAR SQUARE LETTER TA;cTHA;cDA;cDHA;cNA;cPA;cPHA;cBA;cBHA;cMA;cTSA;cTSHA;cDZA;cDZHA
11A27;ZANABAZAR SQUARE LETTER ZHA;cZA;c-A;cYA;cRA;cLA;cVA;cSHA;cSSA;cSA;cHA;cKSSA
11A33;ZANABAZAR SQUARE FINAL CONSONANT MARK;bSIGN VIRAMA;cCANDRABINDU;dWITH ORNAMENT
11A37;ZANABAZAR SQUARE SIGN CANDRA WITH ORNAMENT;cANUSVARA;cVISARGA;bCLUSTER-INITIAL LETTER RA
11A3B;ZANABAZAR SQUARE CLUSTER-FINAL LETTER YA;dRA;dLA;dVA;bINITIAL HEAD MARK;bCLOSING HEAD MARK
11A41;ZANABAZAR SQUARE MARK TSHEG;cSHAD;cDOUBLE SHAD;cLONG TSHEG;bINITIAL DOUBLE-LINED HEAD MARK
11A46;ZANABAZAR SQUARE CLOSING DOUBLE-LINED HEAD MARK;bSUBJOINER
11A50;SOYOMBO LETTER A;aVOWEL SIGN I;cUE;cU;cE;cO;cOE;cAI;cAU;cVOCALIC R;dL;bLENGTH MARK
11A5C;SOYOMBO LETTER KA;bKHA;bGA;bGHA;bNGA;bCA;bCHA;bJA;bJHA;bNYA;bTTA;bTTHA;bDDA;bDDHA;bNNA;bTA
11A6C;SOYOMBO LETTER THA;bDA;bDHA;bNA;bPA;bPHA;bBA;bBHA;bMA;bTSA;bTSHA;bDZA;bZHA;bZA;b-A;bYA;bRA
11A7D;SOYOMBO LETTER LA;bVA;bSHA;bSSA;bSA;bHA;bKSSA;aSIGN JIHVAMULIYA;bUPADHMANIYA
11A86;SOYOMBO CLUSTER-INITIAL LETTER RA;cLA;cSHA;cSA;aFINAL CONSONANT SIGN G;dK;dNG;dD;dN;dB;dM;dR
11A92;SOYOMBO FINAL CONSONANT SIGN L;dSH;dS;d-A;aSIGN ANUSVARA;bVISARGA;aGEMINATION MARK
11A99;SOYOMBO SUBJOINER;aMARK TSHEG;bSHAD;bDOUBLE SHAD;bPLUTA
11A9E;SOYOMBO HEAD MARK WITH MOON AND SUN AND TRIPLE FLAME;hFLAME;fSUN;aTERMINAL MARK-1;bMARK-2
11AB0;CANADIAN SYLLABICS NATTILIK HI;cHII;cHO;cHOO;cHA;cHAA;cSHRI;cSHRII;cSHRO;cSHROO;cSHRA;cSHRAA
11ABC;CANADIAN SYLLABICS SPE;bSPI;bSPO;bSPA;PAU CIN HAU LETTER PA;dKA;dLA;dMA;dDA;dZA;dVA;dNGA;dHA
11AC9;PAU CIN HAU LETTER GA;dKHA;dSA;dBA;dCA;dTA;dTHA;dNA;dPHA;dRA;dFA;dCHA;dA;dE;dI;dO;dU;dUA;dIA
11ADC;PAU CIN HAU LETTER FINAL P;eK;eT;eM;eN;eL;eW;eNG;eY;cRISING TONE LONG;dTONE
11AE7;PAU CIN HAU SANDHI GLOTTAL STOP;cRISING TONE LONG FINAL;eFINAL;cSANDHI GLOTTAL STOP FINAL
11AEB;PAU CIN HAU SANDHI TONE LONG;dTONE;eLONG FINAL;eFINAL;cMID-LEVEL TONE;cGLOTTAL STOP VARIANT
11AF1;PAU CIN HAU MID-LEVEL TONE LONG FINAL;eFINAL;cLOW-FALLING TONE LONG;dTONE;cGLOTTAL STOP
11AF6;PAU CIN HAU LOW-FALLING TONE LONG FINAL;eFINAL;cGLOTTAL STOP FINAL
11C00;BHAIKSUKI LETTER A;bAA;bI;bII;bU;bUU;bVOCALIC R;cRR;cL
11C0A;BHAIKSUKI LETTER E;bAI;bO;bAU;bKA;bKHA;bGA;bGHA;bNGA;bCA;bCHA;bJA;bJHA;bNYA;bTTA;bTTHA;bDDA
11C1B;BHAIKSUKI LETTER DDHA;bNNA;bTA;bTHA;bDA;bDHA;bNA;bPA;bPHA;bBA;bBHA;bMA;bYA;bRA;bLA;bVA;bSHA
11C2C;BHAIKSUKI LETTER SSA;bSA;bHA;aVOWEL SIGN AA;cI;cII;cU;cUU;cVOCALIC R;dRR;dL
11C38;BHAIKSUKI VOWEL SIGN E;cAI;cO;cAU;aSIGN CANDRABINDU;bANUSVARA;bVISARGA;bVIRAMA;bAVAGRAHA
11C41;BHAIKSUKI DANDA;aDOUBLE DANDA;aWORD SEPARATOR;aGAP FILLER-1;bFILLER-2
11C50;BHAIKSUKI DIGIT ZERO;bONE;bTWO;bTHREE;bFOUR;bFIVE;bSIX;bSEVEN;bEIGHT;bNINE;aNUMBER ONE;bTWO
11C5C;BHAIKSUKI NUMBER THREE;bFOUR;bFIVE;bSIX;bSEVEN;bEIGHT;bNINE;bTEN;bTWENTY;bTHIRTY;bFORTY
11C67;BHAIKSUKI NUMBER FIFTY;bSIXTY;bSEVENTY;bEIGHTY;bNINETY;aHUNDREDS UNIT MARK
11C70;MARCHEN HEAD MARK;aMARK SHAD;aLETTER KA;bKHA;bGA;bNGA;bCA;bCHA;bJA;bNYA;bTA;bTHA;bDA;bNA;bPA
11C7F;MARCHEN LETTER PHA;bBA;bMA;bTSA;bTSHA;bDZA;bWA;bZHA;bZA;b-A;bYA;bRA;bLA;bSHA;bSA;bHA;bA
11C92;MARCHEN SUBJOINED LETTER KA;cKHA;cGA;cNGA;cCA;cCHA;cJA;cNYA;cTA;cTHA;cDA;cNA;cPA;cPHA;cBA
11CA1;MARCHEN SUBJOINED LETTER MA;cTSA;cTSHA;cDZA;cWA;cZHA;cZA
11CA9;MARCHEN SUBJOINED LETTER YA;cRA;cLA;cSHA;cSA;cHA;cA;aVOWEL SIGN AA;cI;cU;cE;cO
11CB5;MARCHEN SIGN ANUSVARA;bCANDRABINDU
11D00;MASARAM GONDI LETTER A;cAA;cI;cII;cU;cUU;cE
11D08;MASARAM GONDI LETTER AI;cO
11D0B;MASARAM GONDI LETTER AU;cKA;cKHA;cGA;cGHA;cNGA;cCA;cCHA;cJA;cJHA;cNYA;cTTA;cTTHA;cDDA;cDDHA
11D1A;MASARAM GONDI LETTER NNA;cTA;cTHA;cDA;cDHA;cNA;cPA;cPHA;cBA;cBHA;cMA;cYA;cRA;cLA;cVA;cSHA
11D2A;MASARAM GONDI LETTER SSA;cSA;cHA;cLLA;cKSSA;cJNYA;cTRA;bVOWEL SIGN AA;dI;dII;dU;dUU
11D36;MASARAM GONDI VOWEL SIGN VOCALIC R
11D3A;MASARAM GONDI VOWEL SIGN E
11D3C;MASARAM GONDI VOWEL SIGN AI;dO
11D3F;MASARAM GONDI VOWEL SIGN AU;bSIGN ANUSVARA;cVISARGA;cNUKTA;cCANDRA;cHALANTA;bVIRAMA;bREPHA
11D47;MASARAM GONDI RA-KARA
11D50;MASARAM GONDI DIGIT ZERO;cONE;cTWO;cTHREE;cFOUR;cFIVE;cSIX;cSEVEN;cEIGHT;cNINE
11D60;GUNJALA GONDI LETTER A;cAA;cI;cII;cU;cUU
11D67;GUNJALA GONDI LETTER EE;cAI
11D6A;GUNJALA GONDI LETTER OO;cAU;cYA;cVA;cBA;cBHA;cMA;cKA;cKHA;cTA;cTHA;cLA;cGA;cGHA;cDA;cDHA;cNA
11D7B;GUNJALA GONDI LETTER CA;cCHA;cTTA;cTTHA;cLLA;cJA;cJHA;cDDA;cDDHA;cNGA;cPA;cPHA;cHA;cRA;cSA
11D8A;GUNJALA GONDI VOWEL SIGN AA;dI;dII;dU;dUU
11D90;GUNJALA GONDI VOWEL SIGN EE;dAI
11D93;GUNJALA GONDI VOWEL SIGN OO;dAU;bSIGN ANUSVARA;cVISARGA;bVIRAMA;bOM
11DA0;GUNJALA GONDI DIGIT ZERO;cONE;cTWO;cTHREE;cFOUR;cFIVE;cSIX;cSEVEN;cEIGHT;cNINE
11EE0;MAKASAR LETTER KA;bGA;bNGA;bPA;bBA;bMA;bTA;bDA;bNA;bCA;bJA;bNYA;bYA;bRA;bLA;bVA;bSA;bA
11EF2;MAKASAR ANGKA;aVOWEL SIGN I;cU;cE;cO;aPASSIMBANG;aEND OF SECTION
11FB0;LISU LETTER YHA
11FC0;TAMIL FRACTION ONE THREE-HUNDRED-AND-TWENTIETH;cONE-HUNDRED-AND-SIXTIETH;cEIGHTIETH
11FC3;TAMIL FRACTION ONE SIXTY-FOURTH;cFORTIETH;cTHIRTY-SECOND;bTHREE EIGHTIETHS;cSIXTY-FOURTHS
11FC8;TAMIL FRACTION ONE TWENTIETH;cSIXTEENTH-1;cSIXTEENTH-2;cTENTH;cEIGHTH;bTHREE TWENTIETHS
11FCE;TAMIL FRACTION THREE SIXTEENTHS;bONE FIFTH;cQUARTER;cHALF-1;cHALF-2;bTHREE QUARTERS
11FD4;TAMIL FRACTION DOWNSCALING FACTOR KIIZH;aSIGN NEL;bCEVITU;bAAZHAAKKU;bUZHAKKU;bMUUVUZHAKKU
11FDA;TAMIL SIGN KURUNI;bPATHAKKU;bMUKKURUNI;bKAACU;bPANAM;bPON;bVARAAKAN;bPAARAM;bKUZHI;bVELI
11FE4;TAMIL WET CULTIVATION SIGN;aDRY CULTIVATION SIGN;aLAND SIGN;aSALT PAN SIGN
11FE8;TAMIL TRADITIONAL CREDIT SIGN;bNUMBER SIGN;aCURRENT SIGN;aAND ODD SIGN;aSPENT SIGN
11FED;TAMIL TOTAL SIGN;aIN POSSESSION SIGN;aSTARTING FROM SIGN;aSIGN MUTHALIYA;bVAKAIYARAA
11FFF;TAMIL PUNCTUATION END OF TEXT;CUNEIFORM SIGN A;cTIMES A;dBAD;dGAN2 TENU;dHA;dIGI;dLAGAR GUNU
12007;CUNEIFORM SIGN A TIMES MUSH;dSAG;bA2;bAB;cTIMES ASH2;dDUN3 GUNU;dGAL;dGAN2 TENU;dHA
12010;CUNEIFORM SIGN AB TIMES IGI GUNU;dIMIN;dLAGAB;dSHESH;dU PLUS U PLUS U;cGUNU;bAB2
12017;CUNEIFORM SIGN AB2 TIMES BALAG;dGAN2 TENU;dME PLUS EN;dSHA3;dTAK4;bAD;bAK;cTIMES ERIN2
1201F;CUNEIFORM SIGN AK TIMES SHITA PLUS GISH;bAL;cTIMES AL;dDIM2;dGISH;dHA;dKAD3;dKI;dSHE;dUSH
12029;CUNEIFORM SIGN ALAN;bALEPH;bAMAR;cTIMES SHE;bAN;cOVER AN;cTHREE TIMES
12030;CUNEIFORM SIGN AN PLUS NAGA OPPOSING AN PLUS NAGA;eSQUARED;bANSHE;bAPIN;bARAD;cTIMES KUR
12036;CUNEIFORM SIGN ARKAB;bASAL2;bASH;cZIDA TENU;cKABA TENU
1203B;CUNEIFORM SIGN ASH OVER ASH TUG2 OVER TUG2 TUG2 OVER TUG2 PAP;eOVER ASH
1203D;CUNEIFORM SIGN ASH OVER ASH OVER ASH CROSSING ASH OVER ASH OVER ASH;bASH2;bASHGAB;bBA;bBAD
12042;CUNEIFORM SIGN BAG3;bBAHAR2;bBAL;cOVER BAL;bBALAG;bBAR;bBARA2;bBI;cTIMES A;dGAR;dIGI GUNU
1204D;CUNEIFORM SIGN BU;cOVER BU AB;eUN;cCROSSING BU;bBULUG;cOVER BULUG;bBUR;bBUR2;bDA;bDAG
12057;CUNEIFORM SIGN DAG KISIM5 TIMES A PLUS MASH;eAMAR;eBALAG;eBI;eGA;fPLUS MASH;eGI;eGIR2;eGUD
12060;CUNEIFORM SIGN DAG KISIM5 TIMES HA;eIR;fPLUS LU;eKAK;eLA;eLU;fPLUS MASH2;eLUM;eNE
12069;CUNEIFORM SIGN DAG KISIM5 TIMES PAP PLUS PAP;eSI;eTAK4;eU2 PLUS GIR2;eUSH;bDAM;bDAR;bDARA3
12071;CUNEIFORM SIGN DARA4;bDI;bDIB;bDIM;cTIMES SHE;bDIM2;bDIN;cKASKAL U GUNU DISH;bDISH;bDU
1207B;CUNEIFORM SIGN DU OVER DU;cGUNU;cSHESHIG;bDUB;cTIMES ESH2;bDUB2;bDUG;bDUGUD;bDUH;bDUN;bDUN3
12086;CUNEIFORM SIGN DUN3 GUNU;dGUNU;bDUN4;bDUR2;bE;cTIMES PAP;cOVER E NUN OVER NUN;bE2
1208E;CUNEIFORM SIGN E2 TIMES A PLUS HA PLUS DA;dGAR;dMI;dSAL;dSHE;dU;bEDIN;bEGIR;bEL;bEN
12098;CUNEIFORM SIGN EN TIMES GAN2;eTENU;dME;cCROSSING EN;cOPPOSING EN;cSQUARED;bEREN;bERIN2;bESH2
120A1;CUNEIFORM SIGN EZEN;cTIMES A;ePLUS LAL;gTIMES LAL;dAN;dBAD;dDUN3 GUNU;fGUNU;dHA;eGUNU
120AB;CUNEIFORM SIGN EZEN TIMES IGI GUNU;dKASKAL;eSQUARED;dKU3;dLA;dLAL TIMES LAL;dLI;dLU;dU2;dUD
120B5;CUNEIFORM SIGN GA;cGUNU;bGA2;cTIMES A PLUS DA PLUS HA;fHA;fIGI;dAB2 TENU PLUS TAB;dAN;dASH
120BE;CUNEIFORM SIGN GA2 TIMES ASH2 PLUS GAL;dBAD;dBAR PLUS RA;dBUR;ePLUS RA;dDA;dDI
120C5;CUNEIFORM SIGN GA2 TIMES DIM TIMES SHE;dDUB;dEL;ePLUS LA;dEN;eTIMES GAN2 TENU;dGAN2 TENU
120CC;CUNEIFORM SIGN GA2 TIMES GAR;dGI;dGI4;ePLUS A;dGIR2 PLUS SU;dHA PLUS LU PLUS ESH2;dHAL
120D3;CUNEIFORM SIGN GA2 TIMES HAL PLUS LA;dHI PLUS LI;dHUB2;dIGI GUNU;dISH PLUS HU PLUS ASH;dKAK
120D9;CUNEIFORM SIGN GA2 TIMES KASKAL;dKID;ePLUS LAL;dKU3 PLUS AN;dLA;dME PLUS EN;dMI;dNUN
120E1;CUNEIFORM SIGN GA2 TIMES NUN OVER NUN;dPA;dSAL;dSAR;dSHE;ePLUS TUR;dSHID;dSUM;dTAK4;dU;dUD
120EC;CUNEIFORM SIGN GA2 TIMES UD PLUS DU;cOVER GA2;bGABA;cCROSSING GABA;bGAD
120F1;CUNEIFORM SIGN GAD OVER GAD GAR OVER GAR;bGAL;cGAD OVER GAD GAR OVER GAR;bGALAM;bGAM;bGAN
120F7;CUNEIFORM SIGN GAN2;cTENU;cOVER GAN2;cCROSSING GAN2;bGAR;bGAR3;bGASHAN;bGESHTIN;cTIMES KUR
12100;CUNEIFORM SIGN GI;cTIMES E;dU;cCROSSING GI;bGI4;cOVER GI4;cCROSSING GI4;bGIDIM;bGIR2;cGUNU
1210A;CUNEIFORM SIGN GIR3;cTIMES A PLUS IGI;dGAN2 TENU;dIGI;dLU PLUS IGI;dPA;bGISAL;bGISH
12112;CUNEIFORM SIGN GISH CROSSING GISH;cTIMES BAD;dTAK4;cTENU;bGU;cCROSSING GU;bGU2;cTIMES KAK
1211A;CUNEIFORM SIGN GU2 TIMES KAK TIMES IGI GUNU;dNUN;dSAL PLUS TUG2;cGUNU;bGUD;cTIMES A PLUS KUR
12120;CUNEIFORM SIGN GUD TIMES KUR;cOVER GUD LUGAL;bGUL;bGUM;cTIMES SHE;bGUR;bGUR7;bGURUN;bGURUSH
12129;CUNEIFORM SIGN HA;cTENU;cGUNU;bHAL;bHI;cTIMES ASH;dASH2;dBAD;dDISH;dGAD;dKIN;dNUN;dSHE;dU
12137;CUNEIFORM SIGN HU;bHUB2;cTIMES AN;dHAL;dKASKAL;dLISH;dUD;bHUL2;bI;cA;bIB;bIDIM
12143;CUNEIFORM SIGN IDIM OVER IDIM BUR;eSQUARED;bIG;bIGI;cDIB;cRI
12149;CUNEIFORM SIGN IGI OVER IGI SHIR OVER SHIR UD OVER UD;cGUNU;bIL;cTIMES GAN2 TENU;bIL2;bIM
1214F;CUNEIFORM SIGN IM TIMES TAK4;cCROSSING IM;cOPPOSING IM;cSQUARED;bIMIN;bIN;bIR;bISH;bKA
12158;CUNEIFORM SIGN KA TIMES A;dAD;ePLUS KU3;dASH2;dBAD;dBALAG;dBAR;dBI;dERIN2;dESH2;dGA;dGAL
12164;CUNEIFORM SIGN KA TIMES GAN2 TENU;dGAR;ePLUS SHA3 PLUS A;dGI;dGIR2;dGISH PLUS SAR
1216A;CUNEIFORM SIGN KA TIMES GISH CROSSING GISH;dGU;dGUR7;dIGI;dIM;dKAK;dKI;dKID;dLI;dLU;dME
12175;CUNEIFORM SIGN KA TIMES ME PLUS DU;fGI;fTE;dMI;ePLUS NUNUZ;dNE;dNUN;dPI;dRU;dSA;dSAR;dSHA
12181;CUNEIFORM SIGN KA TIMES SHE;dSHID;dSHU;dSIG;dSUHUR;dTAR;dU;dU2;dUD;dUMUM TIMES PA;dUSH;dZI
1218D;CUNEIFORM SIGN KA2;cCROSSING KA2;bKAB;bKAD2;bKAD3;bKAD4;bKAD5;cOVER KAD5;bKAK
12196;CUNEIFORM SIGN KAK TIMES IGI GUNU;bKAL;cTIMES BAD;cCROSSING KAL;bKAM2;bKAM4;bKASKAL
1219D;CUNEIFORM SIGN KASKAL LAGAB TIMES U OVER LAGAB TIMES U
1219E;CUNEIFORM SIGN KASKAL OVER KASKAL LAGAB TIMES U OVER LAGAB TIMES U;bKESH2;bKI;cTIMES BAD;dU
121A3;CUNEIFORM SIGN KI TIMES UD;bKID;bKIN;bKISAL;bKISH;bKISIM5;cOVER KISIM5;bKU
121AB;CUNEIFORM SIGN KU OVER HI TIMES ASH2 KU OVER HI TIMES ASH2;bKU3;bKU4;cVARIANT FORM;bKU7;bKUL
121B1;CUNEIFORM SIGN KUL GUNU;bKUN;bKUR;cOPPOSING KUR;bKUSHU2;bKWU318;bLA;bLAGAB;cTIMES A
121BA;CUNEIFORM SIGN LAGAB TIMES A PLUS DA PLUS HA;fGAR;fLAL;dAL;dAN;dASH ZIDA TENU;dBAD;dBI;dDAR
121C3;CUNEIFORM SIGN LAGAB TIMES EN;dGA;dGAR;dGUD;ePLUS GUD;dHA;dHAL;dHI TIMES NUN;dIGI GUNU;dIM
121CD;CUNEIFORM SIGN LAGAB TIMES IM PLUS HA;fLU;dKI;dKIN;dKU3;dKUL;ePLUS HI PLUS A;dLAGAB;dLISH
121D6;CUNEIFORM SIGN LAGAB TIMES LU;dLUL;dME;ePLUS EN;dMUSH;dNE;dSHE PLUS SUM
121DD;CUNEIFORM SIGN LAGAB TIMES SHITA PLUS GISH PLUS ERIN2;gTENU;dSHU2;ePLUS SHU2;dSUM;dTAG;dTAK4
121E4;CUNEIFORM SIGN LAGAB TIMES TE PLUS A PLUS SU PLUS NA;dU;ePLUS A;fU PLUS U;dU2 PLUS ASH;dUD
121EA;CUNEIFORM SIGN LAGAB TIMES USH;cSQUARED;bLAGAR;cTIMES SHE;ePLUS SUM;cGUNU
121F0;CUNEIFORM SIGN LAGAR GUNU OVER LAGAR GUNU SHE;bLAHSHU;bLAL;cTIMES LAL;bLAM;cTIMES KUR
121F6;CUNEIFORM SIGN LAM TIMES KUR PLUS RU;bLI;bLIL;bLIMMU2;bLISH;bLU;cTIMES BAD;bLU2;cTIMES AL
121FF;CUNEIFORM SIGN LU2 TIMES BAD;dESH2;eTENU;dGAN2 TENU;dHI TIMES BAD;dIM;dKAD2;dKAD3;ePLUS ASH
12208;CUNEIFORM SIGN LU2 TIMES KI;dLA PLUS ASH;dLAGAB;dME PLUS EN;dNE;dNU;dSI PLUS ASH
1220F;CUNEIFORM SIGN LU2 TIMES SIK2 PLUS BU;dTUG2;cTENU;cCROSSING LU2;cOPPOSING LU2;cSQUARED
12215;CUNEIFORM SIGN LU2 SHESHIG;bLU3;bLUGAL;cOVER LUGAL;cOPPOSING LUGAL;cSHESHIG;bLUH;bLUL;bLUM
1221E;CUNEIFORM SIGN LUM OVER LUM;eGAR OVER GAR;bMA;cTIMES TAK4;cGUNU;bMA2;bMAH;bMAR;bMASH;bMASH2
12228;CUNEIFORM SIGN ME;bMES;bMI;bMIN;bMU;cOVER MU;bMUG;cGUNU;bMUNSUB;bMURGU2;bMUSH;cTIMES A;dKUR
12235;CUNEIFORM SIGN MUSH TIMES ZA;cOVER MUSH;eTIMES A PLUS NA;cCROSSING MUSH;bMUSH3;cTIMES A
1223B;CUNEIFORM SIGN MUSH3 TIMES A PLUS DI;dDI;cGUNU;bNA;bNA2;bNAGA;cINVERTED;cTIMES SHU TENU
12243;CUNEIFORM SIGN NAGA OPPOSING NAGA;bNAGAR;bNAM NUTILLU;bNAM;bNAM2;bNE;cTIMES A;dUD;cSHESHIG
1224C;CUNEIFORM SIGN NI;cTIMES E;bNI2;bNIM;cTIMES GAN2 TENU;dGAR PLUS GAN2 TENU;bNINDA2;cTIMES AN
12254;CUNEIFORM SIGN NINDA2 TIMES ASH;ePLUS ASH;dGUD;dME PLUS GAN2 TENU;dNE;dNUN;dSHE;ePLUS A AN
1225C;CUNEIFORM SIGN NINDA2 TIMES SHE PLUS ASH;gPLUS ASH;dU2 PLUS ASH;dUSH;bNISAG;bNU;bNU11;bNUN
12264;CUNEIFORM SIGN NUN LAGAR TIMES GAR;eMASH;eSAL;fOVER NUN LAGAR TIMES SAL;eUSH;cTENU;cOVER NUN
1226B;CUNEIFORM SIGN NUN CROSSING NUN;eLAGAR OVER LAGAR;bNUNUZ;cAB2 TIMES ASHGAB;eBI;eDUG;eGUD
12272;CUNEIFORM SIGN NUNUZ AB2 TIMES IGI GUNU;eKAD3;eLA;eNE;eSILA3;eU2;cKISIM5 TIMES BI;fU;bPA
1227B;CUNEIFORM SIGN PAD;bPAN;bPAP;bPESH2;bPI;cTIMES A;dAB;dBI;dBU;dE;dI;dIB;dU;dU2;cCROSSING PI
1228A;CUNEIFORM SIGN PIRIG;cTIMES KAL;dUD;dZA;cOPPOSING PIRIG;bRA;bRAB;bRI;bRU;bSA;bSAG NUTILLU
12295;CUNEIFORM SIGN SAG;cTIMES A;dDU;dDUB;dHA;dKAK;dKUR;dLUM;dMI;dNUN;dSAL;dSHID;dTAB;dU2;dUB;dUM
122A5;CUNEIFORM SIGN SAG TIMES UR;dUSH;cOVER SAG;cGUNU;bSAL;cLAGAB TIMES ASH2;bSANGA2;bSAR;bSHA
122AE;CUNEIFORM SIGN SHA3;cTIMES A;dBAD;dGISH;dNE;dSHU2;dTUR;dU;ePLUS A;bSHA6;bSHAB6;bSHAR2;bSHE
122BB;CUNEIFORM SIGN SHE HU;cOVER SHE GAD OVER GAD GAR OVER GAR;eTAB OVER TAB GAR OVER GAR;bSHEG9
122BF;CUNEIFORM SIGN SHEN;bSHESH;bSHESH2;bSHESHLAM;bSHID;cTIMES A;dIM;bSHIM;cTIMES A;dBAL;dBULUG
122CA;CUNEIFORM SIGN SHIM TIMES DIN;dGAR;dIGI;eGUNU;dKUSHU2;dLUL;dMUG;dSAL;bSHINIG;bSHIR;cTENU
122D5;CUNEIFORM SIGN SHIR OVER SHIR BUR OVER BUR;bSHITA;bSHU;cOVER INVERTED SHU;bSHU2;bSHUBUR;bSI
122DC;CUNEIFORM SIGN SI GUNU;bSIG;bSIG4;cOVER SIG4 SHU2;bSIK2;bSILA3;bSU;cOVER SU;bSUD;bSUD2
122E6;CUNEIFORM SIGN SUHUR;bSUM;bSUMASH;bSUR;bSUR9;bTA;cASTERISK;cTIMES HI;dMI;cGUNU;bTAB
122F1;CUNEIFORM SIGN TAB OVER TAB NI OVER NI DISH OVER DISH;cSQUARED;bTAG;cTIMES BI;dGUD;dSHE;dSHU
122F8;CUNEIFORM SIGN TAG TIMES TUG2;dUD;bTAK4;bTAR;bTE;cGUNU;bTI;cTENU;bTIL;bTIR;cTIMES TAK4
12303;CUNEIFORM SIGN TIR OVER TIR;eGAD OVER GAD GAR OVER GAR;bTU;bTUG2;bTUK;bTUM;bTUR
1230A;CUNEIFORM SIGN TUR OVER TUR ZA OVER ZA;bU;cGUD;cU U;cOVER U PA OVER PA GAR OVER GAR
1230F;CUNEIFORM SIGN U OVER U SUR OVER SUR;eU REVERSED OVER U REVERSED;bU2;bUB;bUD;cKUSHU2
12315;CUNEIFORM SIGN UD TIMES BAD;dMI;dU PLUS U PLUS U;iGUNU;cGUNU;cSHESHIG;dTIMES BAD;bUDUG;bUM
1231E;CUNEIFORM SIGN UM TIMES LAGAB;dME PLUS DA;dSHA3;dU;bUMBIN;bUMUM;cTIMES KASKAL;dPA;bUN;cGUNU
12328;CUNEIFORM SIGN UR;cCROSSING UR;cSHESHIG;bUR2;cTIMES A PLUS HA;fNA;dAL;dHA;dNUN;dU2;ePLUS ASH
12333;CUNEIFORM SIGN UR2 TIMES U2 PLUS BI;bUR4;bURI;bURI3;bURU;cTIMES A;dASHGAB;dBAR;dDUN;dGA;dGAL
1233E;CUNEIFORM SIGN URU TIMES GAN2 TENU;dGAR;dGU;dHA;dIGI;dIM;dISH;dKI;dLUM;dMIN;dPA;dSHE;dSIG4
1234B;CUNEIFORM SIGN URU TIMES TU;dU PLUS GUD;dUD;dURUDA;bURUDA;cTIMES U;bUSH;cTIMES A;dKU;dKUR
12355;CUNEIFORM SIGN USH TIMES TAK4;bUSHX;bUSH2;bUSHUMX;bUTUKI;bUZ3;cTIMES KASKAL;bUZU;bZA;cTENU
1235F;CUNEIFORM SIGN ZA SQUARED TIMES KUR;bZAG;bZAMX;bZE2;bZI;cOVER ZI;bZI3;bZIB;cKABA TENU;bZIG
12369;CUNEIFORM SIGN ZIZ2;bZU;bZU5;cTIMES A;bZUBUR;bZUM;bKAP ELAMITE;bAB TIMES NUN;bAB2 TIMES A
12372;CUNEIFORM SIGN AMAR TIMES KUG;bDAG KISIM5 TIMES U2 PLUS MASH;bDAG3;bDISH PLUS SHU
12376;CUNEIFORM SIGN DUB TIMES SHE;bEZEN TIMES GUD;dSHE;bGA2 TIMES AN PLUS KAK PLUS A;dASH2;bGE22
1237C;CUNEIFORM SIGN GIG;bHUSH;bKA TIMES ANSHE;dASH3;dGISH;dGUD;dHI TIMES ASH2;dLUM;dPA;dSHUL;dTU
12387;CUNEIFORM SIGN KA TIMES UR2;bLAGAB TIMES GI;bLU2 SHESHIG TIMES BAD;cTIMES ESH2 PLUS LAL;dSHU
1238C;CUNEIFORM SIGN MESH;bMUSH3 TIMES ZA;bNA4;bNIN;bNIN9;bNINDA2 TIMES BAL;dGI
12393;CUNEIFORM SIGN NU11 ROTATED NINETY DEGREES;bPESH2 ASTERISK;bPIR2;bSAG TIMES IGI GUNU;bTI2
12398;CUNEIFORM SIGN UM TIMES ME;bU U
12400;CUNEIFORM NUMERIC SIGN TWO ASH;cTHREE ASH;cFOUR ASH;cFIVE ASH;cSIX ASH;cSEVEN ASH;cEIGHT ASH
12407;CUNEIFORM NUMERIC SIGN NINE ASH;cTHREE DISH;cFOUR DISH;cFIVE DISH;cSIX DISH;cSEVEN DISH
1240D;CUNEIFORM NUMERIC SIGN EIGHT DISH;cNINE DISH;cFOUR U;cFIVE U;cSIX U;cSEVEN U;cEIGHT U
12414;CUNEIFORM NUMERIC SIGN NINE U;cONE GESH2;cTWO GESH2;cTHREE GESH2;cFOUR GESH2;cFIVE GESH2
1241A;CUNEIFORM NUMERIC SIGN SIX GESH2;cSEVEN GESH2;cEIGHT GESH2;cNINE GESH2;cONE GESHU;cTWO GESHU
12420;CUNEIFORM NUMERIC SIGN THREE GESHU;cFOUR GESHU;cFIVE GESHU;cTWO SHAR2;cTHREE SHAR2
12425;CUNEIFORM NUMERIC SIGN THREE SHAR2 VARIANT FORM;cFOUR SHAR2;cFIVE SHAR2;cSIX SHAR2
12429;CUNEIFORM NUMERIC SIGN SEVEN SHAR2;cEIGHT SHAR2;cNINE SHAR2;cONE SHARU;cTWO SHARU
1242E;CUNEIFORM NUMERIC SIGN THREE SHARU;eVARIANT FORM;cFOUR SHARU;cFIVE SHARU
12432;CUNEIFORM NUMERIC SIGN SHAR2 TIMES GAL PLUS DISH;gMIN;cONE BURU;cTWO BURU;cTHREE BURU
12437;CUNEIFORM NUMERIC SIGN THREE BURU VARIANT FORM;cFOUR BURU;cFIVE BURU
1243A;CUNEIFORM NUMERIC SIGN THREE VARIANT FORM ESH16;fESH21;cFOUR VARIANT FORM LIMMU;fLIMMU4
1243E;CUNEIFORM NUMERIC SIGN FOUR VARIANT FORM LIMMU A;gB;cSIX VARIANT FORM ASH9
12441;CUNEIFORM NUMERIC SIGN SEVEN VARIANT FORM IMIN3;fIMIN A;gB;cEIGHT VARIANT FORM USSU;fUSSU3
12446;CUNEIFORM NUMERIC SIGN NINE VARIANT FORM ILIMMU;fILIMMU3;fILIMMU4;fILIMMU A;cTWO ASH TENU
1244B;CUNEIFORM NUMERIC SIGN THREE ASH TENU;cFOUR ASH TENU;cFIVE ASH TENU;cSIX ASH TENU;cONE BAN2
12450;CUNEIFORM NUMERIC SIGN TWO BAN2;cTHREE BAN2;cFOUR BAN2;eVARIANT FORM;cFIVE BAN2
12455;CUNEIFORM NUMERIC SIGN FIVE BAN2 VARIANT FORM;cNIGIDAMIN;cNIGIDAESH;cONE ESHE3;cTWO ESHE3
1245A;CUNEIFORM NUMERIC SIGN ONE THIRD DISH;cTWO THIRDS DISH;cFIVE SIXTHS DISH
1245D;CUNEIFORM NUMERIC SIGN ONE THIRD VARIANT FORM A;cTWO THIRDS VARIANT FORM A;cONE EIGHTH ASH
12460;CUNEIFORM NUMERIC SIGN ONE QUARTER ASH;cOLD ASSYRIAN ONE SIXTH;fQUARTER;cONE QUARTER GUR
12464;CUNEIFORM NUMERIC SIGN ONE HALF GUR;cELAMITE ONE THIRD;dTWO THIRDS;dFORTY;dFIFTY
12469;CUNEIFORM NUMERIC SIGN FOUR U VARIANT FORM;cFIVE U VARIANT FORM;cSIX U VARIANT FORM
1246C;CUNEIFORM NUMERIC SIGN SEVEN U VARIANT FORM;cEIGHT U VARIANT FORM;cNINE U VARIANT FORM
12470;CUNEIFORM PUNCTUATION SIGN OLD ASSYRIAN WORD DIVIDER;cVERTICAL COLON;cDIAGONAL COLON
12473;CUNEIFORM PUNCTUATION SIGN DIAGONAL TRICOLON;dQUADCOLON
12480;CUNEIFORM SIGN AB TIMES NUN TENU;dSHU2;bAD TIMES ESH2;bBAD TIMES DISH TENU;bBAHAR2 TIMES AB2
12485;CUNEIFORM SIGN BAHAR2 TIMES NI;dZA;bBU OVER BU TIMES NA2;bDA TIMES TAK4;bDAG TIMES KUR
1248A;CUNEIFORM SIGN DIM TIMES IGI;dU U U;bDIM2 TIMES UD;bDUG TIMES ANSHE;dASH;eAT LEFT;dDIN;dDUN
12492;CUNEIFORM SIGN DUG TIMES ERIN2;dGA;dGI;dGIR2 GUNU;dGISH;dHA;dHI;dIGI GUNU;dKASKAL;dKUR
1249C;CUNEIFORM SIGN DUG TIMES KUSHU2;ePLUS KASKAL;dLAK-020;dLAM;eTIMES KUR;dLUH PLUS GISH;dMASH
124A3;CUNEIFORM SIGN DUG TIMES MES;dMI;dNI;dPI;dSHE;dSI GUNU;bE2 TIMES KUR;dPAP;bERIN2 X
124AC;CUNEIFORM SIGN ESH2 CROSSING ESH2;bEZEN SHESHIG TIMES ASH;eHI;eIGI GUNU;eLA;eLAL;eME;eMES
124B4;CUNEIFORM SIGN EZEN SHESHIG TIMES SU;cTIMES SU;bGA2 TIMES BAHAR2;dDIM GUNU
124B8;CUNEIFORM SIGN GA2 TIMES DUG TIMES IGI GUNU;fKASKAL;dEREN;dGA;dGAR PLUS DI;fNE;dHA PLUS A
124BF;CUNEIFORM SIGN GA2 TIMES KUSHU2 PLUS KASKAL;dLAM;eTIMES KUR;dLUH;dMUSH;dNE;ePLUS E2;fGI
124C7;CUNEIFORM SIGN GA2 TIMES SHIM;dZIZ2;bGABA ROTATED NINETY DEGREES;bGESHTIN TIMES U
124CB;CUNEIFORM SIGN GISH TIMES GISH CROSSING GISH;bGU2 TIMES IGI GUNU;bGUD PLUS GISH TIMES TAK4
124CE;CUNEIFORM SIGN HA TENU GUNU;bHI TIMES ASH OVER HI TIMES ASH;bKA TIMES BU;dKA;dU U U;dUR
124D4;CUNEIFORM SIGN LAGAB TIMES ZU OVER ZU;bLAK-003;bLAK-021;bLAK-025;bLAK-030;bLAK-050;bLAK-051
124DB;CUNEIFORM SIGN LAK-062;bLAK-079 OVER LAK-079 GUNU;bLAK-080;bLAK-081 OVER LAK-081;bLAK-092
124E0;CUNEIFORM SIGN LAK-130;bLAK-142;bLAK-210;bLAK-219;bLAK-220;bLAK-225;bLAK-228;bLAK-238
124E8;CUNEIFORM SIGN LAK-265;bLAK-266;bLAK-343;bLAK-347;bLAK-348;bLAK-383;bLAK-384;bLAK-390
124F0;CUNEIFORM SIGN LAK-441;bLAK-449;cTIMES GU;dIGI;dPAP PLUS LU3;fPAP PLUS LU3;dU2 PLUS BA
124F7;CUNEIFORM SIGN LAK-450;bLAK-457;bLAK-470;bLAK-483;bLAK-490;bLAK-492;bLAK-493;bLAK-495
124FF;CUNEIFORM SIGN LAK-550;bLAK-608;bLAK-617;cTIMES ASH;dBAD;dDUN3 GUNU GUNU;dKU3;dLA;dTAR;dTE
12509;CUNEIFORM SIGN LAK-617 TIMES U2;dUD;dURUDA;bLAK-636;bLAK-648;cTIMES DUB;dGA;dIGI;eGUNU;dNI
12513;CUNEIFORM SIGN LAK-648 TIMES PAP PLUS PAP PLUS LU3;dSHESH PLUS KI;dUD;dURUDA;bLAK-724
12518;CUNEIFORM SIGN LAK-749;bLU2 GUNU TIMES ASH;cTIMES DISH;dHAL;dPAP;ePLUS PAP PLUS LU3;dTAK4
1251F;CUNEIFORM SIGN MI PLUS ZA7;bMUSH OVER MUSH TIMES GA;fKAK;bNINDA2 TIMES DIM GUNU;dGISH;dGUL
12525;CUNEIFORM SIGN NINDA2 TIMES HI;dKESH2;dLAK-050;dMASH;dPAP PLUS PAP;dU;ePLUS U;dURUDA
1252D;CUNEIFORM SIGN SAG GUNU TIMES HA;cTIMES EN;dSHE AT LEFT;dTAK4;bSHA6 TENU;bSHE OVER SHE
12533;CUNEIFORM SIGN SHE PLUS HUB2;dNAM2;dSAR;bSHU2 PLUS DUG TIMES NI;dE2 TIMES AN;bSI TIMES TAK4
12539;CUNEIFORM SIGN TAK4 PLUS SAG;bTUM TIMES GAN2 TENU;dTHREE DISH;bUR2 INVERTED;cTIMES UD
1253E;CUNEIFORM SIGN URU TIMES DARA3;dLAK-668;dLU3;bZA7;bZU OVER ZU PLUS SAR
12543;CUNEIFORM SIGN ZU5 TIMES THREE DISH TENU
12F90;CYPRO-MINOAN SIGN CM001;bCM002;bCM004;bCM005;bCM006;bCM007;bCM008;bCM009;bCM010;bCM011
12F9A;CYPRO-MINOAN SIGN CM012;bCM012B;bCM013;bCM015;bCM017;bCM019;bCM021;bCM023;bCM024;bCM025
12FA4;CYPRO-MINOAN SIGN CM026;bCM027;bCM028;bCM029;bCM030;bCM033;bCM034;bCM035;bCM036;bCM037
12FAE;CYPRO-MINOAN SIGN CM038;bCM039;bCM040;bCM041;bCM044;bCM046;bCM047;bCM049;bCM050;bCM051
12FB8;CYPRO-MINOAN SIGN CM052;bCM053;bCM054;bCM055;bCM056;bCM058;bCM059;bCM060;bCM061;bCM062
12FC2;CYPRO-MINOAN SIGN CM063;bCM064;bCM066;bCM067;bCM068;bCM069;bCM070;bCM071;bCM072;bCM073
12FCC;CYPRO-MINOAN SIGN CM074;bCM075;bCM075B;bCM076;bCM078;bCM079;bCM080;bCM081;bCM082;bCM083
12FD6;CYPRO-MINOAN SIGN CM084;bCM085;bCM086;bCM087;bCM088;bCM089;bCM090;bCM091;bCM092;bCM094
12FE0;CYPRO-MINOAN SIGN CM095;bCM096;bCM097;bCM098;bCM099;bCM100;bCM101;bCM102;bCM103;bCM104
12FEA;CYPRO-MINOAN SIGN CM105;bCM107;bCM108;bCM109;bCM110;bCM112;bCM114;bCM301;bCM302
13000;EGYPTIAN HIEROGLYPH A001;bA002;bA003;bA004;bA005;bA005A;bA006;bA006A;bA006B;bA007;bA008
1300B;EGYPTIAN HIEROGLYPH A009;bA010;bA011;bA012;bA013;bA014;bA014A;bA015;bA016;bA017;bA017A;bA018
13017;EGYPTIAN HIEROGLYPH A019;bA020;bA021;bA022;bA023;bA024;bA025;bA026;bA027;bA028;bA029;bA030
13023;EGYPTIAN HIEROGLYPH A031;bA032;bA032A;bA033;bA034;bA035;bA036;bA037;bA038;bA039;bA040;bA040A
1302F;EGYPTIAN HIEROGLYPH A041;bA042;bA042A;bA043;bA043A;bA044;bA045;bA045A;bA046;bA047;bA048
1303A;EGYPTIAN HIEROGLYPH A049;bA050;bA051;bA052;bA053;bA054;bA055;bA056;bA057;bA058;bA059;bA060
13046;EGYPTIAN HIEROGLYPH A061;bA062;bA063;bA064;bA065;bA066;bA067;bA068;bA069;bA070;bB001;bB002
13052;EGYPTIAN HIEROGLYPH B003;bB004;bB005;bB005A;bB006;bB007;bB008;bB009;bC001;bC002;bC002A
1305D;EGYPTIAN HIEROGLYPH C002B;bC002C;bC003;bC004;bC005;bC006;bC007;bC008;bC009;bC010;bC010A
13068;EGYPTIAN HIEROGLYPH C011;bC012;bC013;bC014;bC015;bC016;bC017;bC018;bC019;bC020;bC021;bC022
13074;EGYPTIAN HIEROGLYPH C023;bC024;bD001;bD002;bD003;bD004;bD005;bD006;bD007;bD008;bD008A;bD009
13080;EGYPTIAN HIEROGLYPH D010;bD011;bD012;bD013;bD014;bD015;bD016;bD017;bD018;bD019;bD020;bD021
1308C;EGYPTIAN HIEROGLYPH D022;bD023;bD024;bD025;bD026;bD027;bD027A;bD028;bD029;bD030;bD031;bD031A
13098;EGYPTIAN HIEROGLYPH D032;bD033;bD034;bD034A;bD035;bD036;bD037;bD038;bD039;bD040;bD041;bD042
130A4;EGYPTIAN HIEROGLYPH D043;bD044;bD045;bD046;bD046A;bD047;bD048;bD048A;bD049;bD050;bD050A
130AF;EGYPTIAN HIEROGLYPH D050B;bD050C;bD050D;bD050E;bD050F;bD050G;bD050H;bD050I;bD051;bD052
130B9;EGYPTIAN HIEROGLYPH D052A;bD053;bD054;bD054A;bD055;bD056;bD057;bD058;bD059;bD060;bD061;bD062
130C5;EGYPTIAN HIEROGLYPH D063;bD064;bD065;bD066;bD067;bD067A;bD067B;bD067C;bD067D;bD067E;bD067F
130D0;EGYPTIAN HIEROGLYPH D067G;bD067H;bE001;bE002;bE003;bE004;bE005;bE006;bE007;bE008;bE008A
130DB;EGYPTIAN HIEROGLYPH E009;bE009A;bE010;bE011;bE012;bE013;bE014;bE015;bE016;bE016A;bE017
130E6;EGYPTIAN HIEROGLYPH E017A;bE018;bE019;bE020;bE020A;bE021;bE022;bE023;bE024;bE025;bE026;bE027
130F2;EGYPTIAN HIEROGLYPH E028;bE028A;bE029;bE030;bE031;bE032;bE033;bE034;bE034A;bE036;bE037;bE038
130FE;EGYPTIAN HIEROGLYPH F001;bF001A;bF002;bF003;bF004;bF005;bF006;bF007;bF008;bF009;bF010;bF011
1310A;EGYPTIAN HIEROGLYPH F012;bF013;bF013A;bF014;bF015;bF016;bF017;bF018;bF019;bF020;bF021;bF021A
13116;EGYPTIAN HIEROGLYPH F022;bF023;bF024;bF025;bF026;bF027;bF028;bF029;bF030;bF031;bF031A;bF032
13122;EGYPTIAN HIEROGLYPH F033;bF034;bF035;bF036;bF037;bF037A;bF038;bF038A;bF039;bF040;bF041;bF042
1312E;EGYPTIAN HIEROGLYPH F043;bF044;bF045;bF045A;bF046;bF046A;bF047;bF047A;bF048;bF049;bF050
13139;EGYPTIAN HIEROGLYPH F051;bF051A;bF051B;bF051C;bF052;bF053;bG001;bG002;bG003;bG004;bG005
13144;EGYPTIAN HIEROGLYPH G006;bG006A;bG007;bG007A;bG007B;bG008;bG009;bG010;bG011;bG011A;bG012
1314F;EGYPTIAN HIEROGLYPH G013;bG014;bG015;bG016;bG017;bG018;bG019;bG020;bG020A;bG021;bG022;bG023
1315B;EGYPTIAN HIEROGLYPH G024;bG025;bG026;bG026A;bG027;bG028;bG029;bG030;bG031;bG032;bG033;bG034
13167;EGYPTIAN HIEROGLYPH G035;bG036;bG036A;bG037;bG037A;bG038;bG039;bG040;bG041;bG042;bG043
13172;EGYPTIAN HIEROGLYPH G043A;bG044;bG045;bG045A;bG046;bG047;bG048;bG049;bG050;bG051;bG052;bG053
1317E;EGYPTIAN HIEROGLYPH G054;bH001;bH002;bH003;bH004;bH005;bH006;bH006A;bH007;bH008;bI001;bI002
1318A;EGYPTIAN HIEROGLYPH I003;bI004;bI005;bI005A;bI006;bI007;bI008;bI009;bI009A;bI010;bI010A
13195;EGYPTIAN HIEROGLYPH I011;bI011A;bI012;bI013;bI014;bI015;bK001;bK002;bK003;bK004;bK005;bK006
131A1;EGYPTIAN HIEROGLYPH K007;bK008;bL001;bL002;bL002A;bL003;bL004;bL005;bL006;bL006A;bL007;bL008
131AD;EGYPTIAN HIEROGLYPH M001;bM001A;bM001B;bM002;bM003;bM003A;bM004;bM005;bM006;bM007;bM008
131B8;EGYPTIAN HIEROGLYPH M009;bM010;bM010A;bM011;bM012;bM012A;bM012B;bM012C;bM012D;bM012E;bM012F
131C3;EGYPTIAN HIEROGLYPH M012G;bM012H;bM013;bM014;bM015;bM015A;bM016;bM016A;bM017;bM017A;bM018
131CE;EGYPTIAN HIEROGLYPH M019;bM020;bM021;bM022;bM022A;bM023;bM024;bM024A;bM025;bM026;bM027;bM028
131DA;EGYPTIAN HIEROGLYPH M028A;bM029;bM030;bM031;bM031A;bM032;bM033;bM033A;bM033B;bM034;bM035
131E5;EGYPTIAN HIEROGLYPH M036;bM037;bM038;bM039;bM040;bM040A;bM041;bM042;bM043;bM044;bN001;bN002
131F1;EGYPTIAN HIEROGLYPH N003;bN004;bN005;bN006;bN007;bN008;bN009;bN010;bN011;bN012;bN013;bN014
131FD;EGYPTIAN HIEROGLYPH N015;bN016;bN017;bN018;bN018A;bN018B;bN019;bN020;bN021;bN022;bN023;bN024
13209;EGYPTIAN HIEROGLYPH N025;bN025A;bN026;bN027;bN028;bN029;bN030;bN031;bN032;bN033;bN033A;bN034
13215;EGYPTIAN HIEROGLYPH N034A;bN035;bN035A;bN036;bN037;bN037A;bN038;bN039;bN040;bN041;bN042
13220;EGYPTIAN HIEROGLYPH NL001;bNL002;bNL003;bNL004;bNL005;bNL005A;bNL006;bNL007;bNL008;bNL009
1322A;EGYPTIAN HIEROGLYPH NL010;bNL011;bNL012;bNL013;bNL014;bNL015;bNL016;bNL017;bNL017A;bNL018
13234;EGYPTIAN HIEROGLYPH NL019;bNL020;bNU001;bNU002;bNU003;bNU004;bNU005;bNU006;bNU007;bNU008
1323E;EGYPTIAN HIEROGLYPH NU009;bNU010;bNU010A;bNU011;bNU011A;bNU012;bNU013;bNU014;bNU015;bNU016
13248;EGYPTIAN HIEROGLYPH NU017;bNU018;bNU018A;bNU019;bNU020;bNU021;bNU022;bNU022A;bO001;bO001A
13252;EGYPTIAN HIEROGLYPH O002;bO003;bO004;bO005;bO005A;bO006;bO006A;bO006B;bO006C;bO006D;bO006E
1325D;EGYPTIAN HIEROGLYPH O006F;bO007;bO008;bO009;bO010;bO010A;bO010B;bO010C;bO011;bO012;bO013
13268;EGYPTIAN HIEROGLYPH O014;bO015;bO016;bO017;bO018;bO019;bO019A;bO020;bO020A;bO021;bO022;bO023
13274;EGYPTIAN HIEROGLYPH O024;bO024A;bO025;bO025A;bO026;bO027;bO028;bO029;bO029A;bO030;bO030A
1327F;EGYPTIAN HIEROGLYPH O031;bO032;bO033;bO033A;bO034;bO035;bO036;bO036A;bO036B;bO036C;bO036D
1328A;EGYPTIAN HIEROGLYPH O037;bO038;bO039;bO040;bO041;bO042;bO043;bO044;bO045;bO046;bO047;bO048
13296;EGYPTIAN HIEROGLYPH O049;bO050;bO050A;bO050B;bO051;bP001;bP001A;bP002;bP003;bP003A;bP004
132A1;EGYPTIAN HIEROGLYPH P005;bP006;bP007;bP008;bP009;bP010;bP011;bQ001;bQ002;bQ003;bQ004;bQ005
132AD;EGYPTIAN HIEROGLYPH Q006;bQ007;bR001;bR002;bR002A;bR003;bR003A;bR003B;bR004;bR005;bR006
132B8;EGYPTIAN HIEROGLYPH R007;bR008;bR009;bR010;bR010A;bR011;bR012;bR013;bR014;bR015;bR016;bR016A
132C4;EGYPTIAN HIEROGLYPH R017;bR018;bR019;bR020;bR021;bR022;bR023;bR024;bR025;bR026;bR027;bR028
132D0;EGYPTIAN HIEROGLYPH R029;bS001;bS002;bS002A;bS003;bS004;bS005;bS006;bS006A;bS007;bS008;bS009
132DC;EGYPTIAN HIEROGLYPH S010;bS011;bS012;bS013;bS014;bS014A;bS014B;bS015;bS016;bS017;bS017A
132E7;EGYPTIAN HIEROGLYPH S018;bS019;bS020;bS021;bS022;bS023;bS024;bS025;bS026;bS026A;bS026B;bS027
132F3;EGYPTIAN HIEROGLYPH S028;bS029;bS030;bS031;bS032;bS033;bS034;bS035;bS035A;bS036;bS037;bS038
132FF;EGYPTIAN HIEROGLYPH S039;bS040;bS041;bS042;bS043;bS044;bS045;bS046;bT001;bT002;bT003;bT003A
1330B;EGYPTIAN HIEROGLYPH T004;bT005;bT006;bT007;bT007A;bT008;bT008A;bT009;bT009A;bT010;bT011
13316;EGYPTIAN HIEROGLYPH T011A;bT012;bT013;bT014;bT015;bT016;bT016A;bT017;bT018;bT019;bT020;bT021
13322;EGYPTIAN HIEROGLYPH T022;bT023;bT024;bT025;bT026;bT027;bT028;bT029;bT030;bT031;bT032;bT032A
1332E;EGYPTIAN HIEROGLYPH T033;bT033A;bT034;bT035;bT036;bU001;bU002;bU003;bU004;bU005;bU006;bU006A
1333A;EGYPTIAN HIEROGLYPH U006B;bU007;bU008;bU009;bU010;bU011;bU012;bU013;bU014;bU015;bU016;bU017
13346;EGYPTIAN HIEROGLYPH U018;bU019;bU020;bU021;bU022;bU023;bU023A;bU024;bU025;bU026;bU027;bU028
13352;EGYPTIAN HIEROGLYPH U029;bU029A;bU030;bU031;bU032;bU032A;bU033;bU034;bU035;bU036;bU037;bU038
1335E;EGYPTIAN HIEROGLYPH U039;bU040;bU041;bU042;bV001;bV001A;bV001B;bV001C;bV001D;bV001E;bV001F
13369;EGYPTIAN HIEROGLYPH V001G;bV001H;bV001I;bV002;bV002A;bV003;bV004;bV005;bV006;bV007;bV007A
13374;EGYPTIAN HIEROGLYPH V007B;bV008;bV009;bV010;bV011;bV011A;bV011B;bV011C;bV012;bV012A;bV012B
1337F;EGYPTIAN HIEROGLYPH V013;bV014;bV015;bV016;bV017;bV018;bV019;bV020;bV020A;bV020B;bV020C
1338A;EGYPTIAN HIEROGLYPH V020D;bV020E;bV020F;bV020G;bV020H;bV020I;bV020J;bV020K;bV020L;bV021
13394;EGYPTIAN HIEROGLYPH V022;bV023;bV023A;bV024;bV025;bV026;bV027;bV028;bV028A;bV029;bV029A
1339F;EGYPTIAN HIEROGLYPH V030;bV030A;bV031;bV031A;bV032;bV033;bV033A;bV034;bV035;bV036;bV037
133AA;EGYPTIAN HIEROGLYPH V037A;bV038;bV039;bV040;bV040A;bW001;bW002;bW003;bW003A;bW004;bW005
133B5;EGYPTIAN HIEROGLYPH W006;bW007;bW008;bW009;bW009A;bW010;bW010A;bW011;bW012;bW013;bW014
133C0;EGYPTIAN HIEROGLYPH W014A;bW015;bW016;bW017;bW017A;bW018;bW018A;bW019;bW020;bW021;bW022
133CB;EGYPTIAN HIEROGLYPH W023;bW024;bW024A;bW025;bX001;bX002;bX003;bX004;bX004A;bX004B;bX005
133D6;EGYPTIAN HIEROGLYPH X006;bX006A;bX007;bX008;bX008A;bY001;bY001A;bY002;bY003;bY004;bY005
133E1;EGYPTIAN HIEROGLYPH Y006;bY007;bY008;bZ001;bZ002;bZ002A;bZ002B;bZ002C;bZ002D;bZ003;bZ003A
133EC;EGYPTIAN HIEROGLYPH Z003B;bZ004;bZ004A;bZ005;bZ005A;bZ006;bZ007;bZ008;bZ009;bZ010;bZ011
133F7;EGYPTIAN HIEROGLYPH Z012;bZ013;bZ014;bZ015;bZ015A;bZ015B;bZ015C;bZ015D;bZ015E;bZ015F;bZ015G
13402;EGYPTIAN HIEROGLYPH Z015H;bZ015I;bZ016;bZ016A;bZ016B;bZ016C;bZ016D;bZ016E;bZ016F;bZ016G
1340C;EGYPTIAN HIEROGLYPH Z016H;bAA001;bAA002;bAA003;bAA004;bAA005;bAA006;bAA007;bAA007A;bAA007B
13416;EGYPTIAN HIEROGLYPH AA008;bAA009;bAA010;bAA011;bAA012;bAA013;bAA014;bAA015;bAA016;bAA017
13420;EGYPTIAN HIEROGLYPH AA018;bAA019;bAA020;bAA021;bAA022;bAA023;bAA024;bAA025;bAA026;bAA027
1342A;EGYPTIAN HIEROGLYPH AA028;bAA029;bAA030;bAA031;bAA032
13430;EGYPTIAN HIEROGLYPH VERTICAL JOINER;bHORIZONTAL JOINER;bINSERT AT TOP START;dBOTTOM START
13434;EGYPTIAN HIEROGLYPH INSERT AT TOP END;dBOTTOM END;bOVERLAY MIDDLE;bBEGIN SEGMENT
13438;EGYPTIAN HIEROGLYPH END SEGMENT
14400;ANATOLIAN HIEROGLYPH A001;bA002;bA003;bA004;bA005;bA006;bA007;bA008;bA009;bA010;bA010A;bA011
1440C;ANATOLIAN HIEROGLYPH A012;bA013;bA014;bA015;bA016;bA017;bA018;bA019;bA020;bA021;bA022;bA023
14418;ANATOLIAN HIEROGLYPH A024;bA025;bA026;bA026A;bA027;bA028;bA029;bA030;bA031;bA032;bA033;bA034
14424;ANATOLIAN HIEROGLYPH A035;bA036;bA037;bA038;bA039;bA039A;bA040;bA041;bA041A;bA042;bA043
1442F;ANATOLIAN HIEROGLYPH A044;bA045;bA045A;bA046;bA046A;bA046B;bA047;bA048;bA049;bA050;bA051
1443A;ANATOLIAN HIEROGLYPH A052;bA053;bA054;bA055;bA056;bA057;bA058;bA059;bA060;bA061;bA062;bA063
14446;ANATOLIAN HIEROGLYPH A064;bA065;bA066;bA066A;bA066B;bA066C;bA067;bA068;bA069;bA070;bA071
14451;ANATOLIAN HIEROGLYPH A072;bA073;bA074;bA075;bA076;bA077;bA078;bA079;bA080;bA081;bA082;bA083
1445D;ANATOLIAN HIEROGLYPH A084;bA085;bA086;bA087;bA088;bA089;bA090;bA091;bA092;bA093;bA094;bA095
14469;ANATOLIAN HIEROGLYPH A096;bA097;bA097A;bA098;bA098A;bA099;bA100;bA100A;bA101;bA101A;bA102
14474;ANATOLIAN HIEROGLYPH A102A;bA103;bA104;bA104A;bA104B;bA104C;bA105;bA105A;bA105B;bA106;bA107
1447F;ANATOLIAN HIEROGLYPH A107A;bA107B;bA107C;bA108;bA109;bA110;bA110A;bA110B;bA111;bA112;bA113
1448A;ANATOLIAN HIEROGLYPH A114;bA115;bA115A;bA116;bA117;bA118;bA119;bA120;bA121;bA122;bA123;bA124
14496;ANATOLIAN HIEROGLYPH A125;bA125A;bA126;bA127;bA128;bA129;bA130;bA131;bA132;bA133;bA134;bA135
144A2;ANATOLIAN HIEROGLYPH A135A;bA136;bA137;bA138;bA139;bA140;bA141;bA142;bA143;bA144;bA145;bA146
144AE;ANATOLIAN HIEROGLYPH A147;bA148;bA149;bA150;bA151;bA152;bA153;bA154;bA155;bA156;bA157;bA158
144BA;ANATOLIAN HIEROGLYPH A159;bA160;bA161;bA162;bA163;bA164;bA165;bA166;bA167;bA168;bA169;bA170
144C6;ANATOLIAN HIEROGLYPH A171;bA172;bA173;bA174;bA175;bA176;bA177;bA178;bA179;bA180;bA181;bA182
144D2;ANATOLIAN HIEROGLYPH A183;bA184;bA185;bA186;bA187;bA188;bA189;bA190;bA191;bA192;bA193;bA194
144DE;ANATOLIAN HIEROGLYPH A195;bA196;bA197;bA198;bA199;bA200;bA201;bA202;bA202A;bA202B;bA203
144E9;ANATOLIAN HIEROGLYPH A204;bA205;bA206;bA207;bA207A;bA208;bA209;bA209A;bA210;bA211;bA212
144F4;ANATOLIAN HIEROGLYPH A213;bA214;bA215;bA215A;bA216;bA216A;bA217;bA218;bA219;bA220;bA221
144FF;ANATOLIAN HIEROGLYPH A222;bA223;bA224;bA225;bA226;bA227;bA227A;bA228;bA229;bA230;bA231;bA232
1450B;ANATOLIAN HIEROGLYPH A233;bA234;bA235;bA236;bA237;bA238;bA239;bA240;bA241;bA242;bA243;bA244
14517;ANATOLIAN HIEROGLYPH A245;bA246;bA247;bA248;bA249;bA250;bA251;bA252;bA253;bA254;bA255;bA256
14523;ANATOLIAN HIEROGLYPH A257;bA258;bA259;bA260;bA261;bA262;bA263;bA264;bA265;bA266;bA267;bA267A
1452F;ANATOLIAN HIEROGLYPH A268;bA269;bA270;bA271;bA272;bA273;bA274;bA275;bA276;bA277;bA278;bA279
1453B;ANATOLIAN HIEROGLYPH A280;bA281;bA282;bA283;bA284;bA285;bA286;bA287;bA288;bA289;bA289A;bA290
14547;ANATOLIAN HIEROGLYPH A291;bA292;bA293;bA294;bA294A;bA295;bA296;bA297;bA298;bA299;bA299A
14552;ANATOLIAN HIEROGLYPH A300;bA301;bA302;bA303;bA304;bA305;bA306;bA307;bA308;bA309;bA309A;bA310
1455E;ANATOLIAN HIEROGLYPH A311;bA312;bA313;bA314;bA315;bA316;bA317;bA318;bA319;bA320;bA321;bA322
1456A;ANATOLIAN HIEROGLYPH A323;bA324;bA325;bA326;bA327;bA328;bA329;bA329A;bA330;bA331;bA332A
14575;ANATOLIAN HIEROGLYPH A332B;bA332C;bA333;bA334;bA335;bA336;bA336A;bA336B;bA336C;bA337;bA338
14580;ANATOLIAN HIEROGLYPH A339;bA340;bA341;bA342;bA343;bA344;bA345;bA346;bA347;bA348;bA349;bA350
1458C;ANATOLIAN HIEROGLYPH A351;bA352;bA353;bA354;bA355;bA356;bA357;bA358;bA359;bA359A;bA360;bA361
14598;ANATOLIAN HIEROGLYPH A362;bA363;bA364;bA364A;bA365;bA366;bA367;bA368;bA368A;bA369;bA370
145A3;ANATOLIAN HIEROGLYPH A371;bA371A;bA372;bA373;bA374;bA375;bA376;bA377;bA378;bA379;bA380;bA381
145AF;ANATOLIAN HIEROGLYPH A381A;bA382;bA383 RA OR RI;bA383A;bA384;bA385;bA386;bA386A;bA387;bA388
145B9;ANATOLIAN HIEROGLYPH A389;bA390;bA391;bA392;bA393 EIGHT;bA394;bA395;bA396;bA397;bA398;bA399
145C4;ANATOLIAN HIEROGLYPH A400;bA401;bA402;bA403;bA404;bA405;bA406;bA407;bA408;bA409
145CE;ANATOLIAN HIEROGLYPH A410 BEGIN LOGOGRAM MARK;bA410A END LOGOGRAM MARK;bA411;bA412;bA413
145D3;ANATOLIAN HIEROGLYPH A414;bA415;bA416;bA417;bA418;bA419;bA420;bA421;bA422;bA423;bA424;bA425
145DF;ANATOLIAN HIEROGLYPH A426;bA427;bA428;bA429;bA430;bA431;bA432;bA433;bA434;bA435;bA436;bA437
145EB;ANATOLIAN HIEROGLYPH A438;bA439;bA440;bA441;bA442;bA443;bA444;bA445;bA446;bA447;bA448;bA449
145F7;ANATOLIAN HIEROGLYPH A450;bA450A;bA451;bA452;bA453;bA454;bA455;bA456;bA457;bA457A;bA458
14602;ANATOLIAN HIEROGLYPH A459;bA460;bA461;bA462;bA463;bA464;bA465;bA466;bA467;bA468;bA469;bA470
1460E;ANATOLIAN HIEROGLYPH A471;bA472;bA473;bA474;bA475;bA476;bA477;bA478;bA479;bA480;bA481;bA482
1461A;ANATOLIAN HIEROGLYPH A483;bA484;bA485;bA486;bA487;bA488;bA489;bA490;bA491;bA492;bA493;bA494
14626;ANATOLIAN HIEROGLYPH A495;bA496;bA497;bA501;bA502;bA503;bA504;bA505;bA506;bA507;bA508;bA509
14632;ANATOLIAN HIEROGLYPH A510;bA511;bA512;bA513;bA514;bA515;bA516;bA517;bA518;bA519;bA520;bA521
1463E;ANATOLIAN HIEROGLYPH A522;bA523;bA524;bA525;bA526;bA527;bA528;bA529;bA530
16800;BAMUM LETTER PHASE-A NGKUE MFON;cGBIEE FON;cPON MFON PIPAEMGBIEE;ePIPAEMBA;cNAA MFON
16805;BAMUM LETTER PHASE-A SHUENSHUET;cTITA MFON;cNZA MFON;cSHINDA PA NJI;cPON PA NJI PIPAEMGBIEE
1680A;BAMUM LETTER PHASE-A PON PA NJI PIPAEMBA;cMAEMBGBIEE;cTU MAEMBA;cNGANGU;cMAEMVEUX;cMANSUAE
16810;BAMUM LETTER PHASE-A MVEUAENGAM;cSEUNYAM;cNTOQPEN;cKEUKEUTNDA;cNKINDI;cSUU;cNGKUENZEUM
16817;BAMUM LETTER PHASE-A LAPAQ;cLET KUT;cNTAP MFAA;cMAEKEUP;cPASHAE;cGHEUAERAE;cPAMSHAE
1681E;BAMUM LETTER PHASE-A MON NGGEUAET;cNZUN MEUT;cU YUQ NAE;cGHEUAEGHEUAE;cNTAP NTAA;cSISA
16824;BAMUM LETTER PHASE-A MGBASA;cMEUNJOMNDEUQ;cMOOMPUQ;cKAFA;cPA LEERAEWA;cNDA LEERAEWA;cPET
1682B;BAMUM LETTER PHASE-A MAEMKPEN;cNIKA;cPUP;cTUAEP;cLUAEP;cSONJAM;cTEUTEUWEN;cMAENYI;cKET
16834;BAMUM LETTER PHASE-A NDAANGGEUAET;cKUOQ;cMOOMEUT;cSHUM;cLOMMAE;cFIRI;cROM;cKPOQ;cSOQ
1683D;BAMUM LETTER PHASE-A MAP PIEET;cSHIRAE;cNTAP;cSHOQ NSHUT YUM;cNYIT MONGKEUAEQ;cPAARAE
16843;BAMUM LETTER PHASE-A NKAARAE;cUNKNOWN;cNGGEN;cMAESI;cNJAM;cMBANYI;cNYET;cTEUAEN;cSOT;cPAAM
1684D;BAMUM LETTER PHASE-A NSHIEE;cMAEM;cNYI;cKAQ;cNSHA;cVEE;cLU;cNEN;cNAQ;cMBAQ;bPHASE-B NSHUET
16858;BAMUM LETTER PHASE-B TU MAEMGBIEE;cSIEE;cSET TU;cLOM NTEUM;cMBA MAELEE;cKIEEM;cYEURAE
1685F;BAMUM LETTER PHASE-B MBAARAE;cKAM;cPEESHI;cYAFU LEERAEWA;cLAM NSHUT NYAM;cNTIEE SHEUOQ
16865;BAMUM LETTER PHASE-B NDU NJAA;cGHEUGHEUAEM;cPIT;cTU NSIEE;cSHET NJAQ;cSHEUAEQTU;cMFON TEUAEQ
1686C;BAMUM LETTER PHASE-B MBIT MBAAKET;cNYI NTEUM;cKEUPUQ;cGHEUGHEN;cKEUYEUX;cLAANAE;cPARUM;cVEUM
16874;BAMUM LETTER PHASE-B NGKINDI MVOP;cNGGEU MBU;cWUAET;cSAKEUAE;cTAAM;cMEUQ;cNGGUOQ;dLARGE
1687C;BAMUM LETTER PHASE-B MFIYAQ;cSUE;cMBEURI;cMONTIEEN;cNYAEMAE;cPUNGAAM;cMEUT NGGEET;cFEUX
16884;BAMUM LETTER PHASE-B MBUOQ;cFEE;cKEUAEM;cMA NJEUAENA;dNJUQA;cLET;cNGGAAM;cNSEN;cMA;cKIQ
1688E;BAMUM LETTER PHASE-B NGOM;bPHASE-C NGKUE MAEMBA;cNZA;cYUM;cWANGKUOQ;cNGGEN;cNDEUAEREE;cNGKAQ
16896;BAMUM LETTER PHASE-C GHARAE;cMBEEKEET;cGBAYI;cNYIR MKPARAQ MEUN;cNTU MBIT;cMBEUM;cPIRIEEN
1689D;BAMUM LETTER PHASE-C NDOMBU;cMBAA CABBAGE-TREE;cKEUSHEUAEP;cGHAP;cKEUKAQ;cYU MUOMAE;cNZEUM
168A4;BAMUM LETTER PHASE-C MBUE;cNSEUAEN;cMBIT;cYEUQ;cKPARAQ;cKAA;cSEUX;cNDIDA;cTAASHAE;cNJUEQ
168AE;BAMUM LETTER PHASE-C TITA YUE;cSUAET;cNGGUAEN NYAM;cVEUX;cNANSANAQ;cMA KEUAERI;cNTAA;cNGGUON
168B6;BAMUM LETTER PHASE-C LAP;cMBIRIEEN;cMGBASAQ;cNTEUNGBA;cTEUTEUX;cNGGUM;cFUE;cNDEUT;cNSA
168BF;BAMUM LETTER PHASE-C NSHAQ;cBUNG;cVEUAEPEN;cMBERAE;cRU;cNJAEM;cLAM;cTITUAEP;cNSUOT NGOM
168C8;BAMUM LETTER PHASE-C NJEEEE;cKET;cNGGU;cMAESI;cMBUAEM;cLU;cKUT;cNJAM;cNGOM;cWUP;cNGGUEET
168D3;BAMUM LETTER PHASE-C NSOM;cNTEN;cKUOP NKAARAE;cNSUN;cNDAM;cMA NSIEE;cYAA;cNDAP;cSHUEQ
168DC;BAMUM LETTER PHASE-C SETFON;cMBI;cMAEMBA;cMBANYI;cKEUSEUX;cMBEUX;cKEUM;cMBAA PICKET;cYUWOQ
168E5;BAMUM LETTER PHASE-C NJEUX;cMIEE;cMUAE;cSHIQ;cKEN LAW;dFATIGUE;cNGAQ;cNAQ;cLIQ;cPIN;cPEN
168F0;BAMUM LETTER PHASE-C TET;bPHASE-D MBUO;cWAP;cNJI;cMFON;cNJIEE;cLIEE;cNJEUT;cNSHEE;cNGGAAMAE
168FA;BAMUM LETTER PHASE-D NYAM;cWUAEN;cNGKUN;cSHEE;cNGKAP;cKEUAETMEUN;cTEUT;cSHEUAE;cNJAP;cSUE
16904;BAMUM LETTER PHASE-D KET;cYAEMMAE;cKUOM;cSAP;cMFEUT;cNDEUX;cMALEERI;cMEUT;cSEUAEQ;cYEN
1690E;BAMUM LETTER PHASE-D NJEUAEM;cKEUOT MBUAE;cNGKEURI;cTU;cGHAA;cNGKYEE;cFEUFEUAET;cNDEE
16916;BAMUM LETTER PHASE-D MGBOFUM;cLEUAEP;cNDON;cMONI;cMGBEUN;cPUUT;cMGBIEE;cMFO;cLUM;cNSIEEP
16920;BAMUM LETTER PHASE-D MBAA;cKWAET;cNYET;cTEUAEN;cSOT;cYUWOQ;cKEUM;cRAEM;cTEEEE;cNGKEUAEQ
1692A;BAMUM LETTER PHASE-D MFEUAE;cNSIEET;cKEUP;cPIP;cPEUTAE;cNYUE;cLET;cNGGAAM;cMFIEE;cNGGWAEN
16934;BAMUM LETTER PHASE-D YUOM;cPAP;cYUOP;cNDAM;cNTEUM;cSUAE;cKUN;cNGGEUX;cNGKIEE;cTUOT;cMEUN
1693F;BAMUM LETTER PHASE-D KUQ;cNSUM;cTEUN;cMAENJET;cNGGAP;cLEUM;cNGGUOM;cNSHUT;cNJUEQ;cGHEUAE;cKU
1694A;BAMUM LETTER PHASE-D REN OLD;cTAE;cTOQ;cNYI;cRII;cLEEEE;cMEEEE;cM;cSUU;cMU;cSHII;cSHEUX
16956;BAMUM LETTER PHASE-D KYEE;cNU;cSHU;cNTEE;cPEE;cNI;cSHOQ;cPUQ;cMVOP;cLOQ;cREN MUCH;cTI;cNTUU
16963;BAMUM LETTER PHASE-D MBAA SEVEN;cSAQ;cFAA;bPHASE-E NDAP;cTOON;cMBEUM;cLAP;cVOM;cLOON;cPAA
1696D;BAMUM LETTER PHASE-E SOM;cRAQ;cNSHUOP;cNDUN;cPUAE;cTAM;cNGKA;cKPEUX;cWUO;cSEE;cNGGEUAET
16978;BAMUM LETTER PHASE-E PAAM;cTOO;cKUOP;cLOM;cNSHIEE;cNGOP;cMAEM;cNGKEUX;cNGOQ;cNSHUE;cRIMGBA
16983;BAMUM LETTER PHASE-E NJEUX;cPEEM;cSAA;cNGGURAE;cMGBA;cGHEUX;cNGKEUAEM;cNJAEMLI;cMAP;cLOOT
1698D;BAMUM LETTER PHASE-E NGGEEEE;cNDIQ;cTAEN NTEUM;cSET;cPUM;cNDAA SOFTNESS;cNGGUAESHAE NYAM
16994;BAMUM LETTER PHASE-E YIEE;cGHEUN;cTUAE;cYEUAE;cPO;cTUMAE;cKEUAE;cSUAEN;cTEUAEQ;cVEUAE;cWEUX
1699F;BAMUM LETTER PHASE-E LAAM;cPU;cTAAQ;cGHAAMAE;cNGEUREUT;cSHEUAEQ;cMGBEN;cMBEE;cNZAQ;cNKOM
169A9;BAMUM LETTER PHASE-E GBET;cTUM;cKUET;cYAP;cNYI CLEAVER;cYIT;cMFEUQ;cNDIAQ;cPIEEQ;cYUEQ
169B3;BAMUM LETTER PHASE-E LEUAEM;cFUE;cGBEUX;cNGKUP;cKET;cMAE;cNGKAAMI;cGHET;cFA;cNTUM;cPEUT
169BE;BAMUM LETTER PHASE-E YEUM;cNGGEUAE;cNYI BETWEEN;cNZUQ;cPOON;cMIEE;cFUET;cNAE;cMUAE;cGHEUAE
169C8;BAMUM LETTER PHASE-E FU I;cMVI;cPUAQ;cNGKUM;cKUT;cPIET;cNTAP;cYEUAET;cNGGUP;cPA PEOPLE
169D2;BAMUM LETTER PHASE-E FU CALL;cFOM;cNJEE;cA;cTOQ;cO;cI;cLAQ;cPA PLURAL;cTAA;cTAQ
169DD;BAMUM LETTER PHASE-E NDAA MY HOUSE;cSHIQ;cYEUX;cNGUAE;cYUAEN;cYOQ SWIMMING;dCOVER;cYUQ;cYUN
169E6;BAMUM LETTER PHASE-E KEUX;cPEUX;cNJEE EPOCH;cPUE;cWUE;cFEE;cVEE;cLU;cMI;cREUX;cRAE;cNGUAET
169F2;BAMUM LETTER PHASE-E NGA;cSHO;cSHOQ;cFU REMEDY;cNA;cPI;cLOQ;cKO;cMEN;cMA;cMAQ;cTEU;cKI;cMON
16A00;BAMUM LETTER PHASE-E TEN;cFAQ;cGHOM;bPHASE-F KA;cU;cKU;cEE;cREE;cTAE;cNYI;cLA;cRII;cRIEE
16A0D;BAMUM LETTER PHASE-F MEEEE;cTAA;cNDAA;cNJAEM;cM;cSUU;cSHII;cSI;cSEUX;cKYEE;cKET;cNUAE;cNU
16A1A;BAMUM LETTER PHASE-F NJUAE;cYOQ;cSHU;cYA;cNSHA;cPEUX;cNTEE;cWUE;cPEE;cRU;cNI;cREUX;cKEN
16A27;BAMUM LETTER PHASE-F NGKWAEN;cNGGA;cSHO;cPUAE;cFOM;cWA;cLI;cLOQ;cKO;cMBEN;cREN;cMA;cMO;cMBAA
16A35;BAMUM LETTER PHASE-F TET;cKPA;cSAMBA;cVUEQ
16A40;MRO LETTER TA;bNGI;bYO;bMIM;bBA;bDA;bA;bPHI;bKHAI;bHAO;bDAI;bCHU;bKEAAE;bOL;bMAEM;bNIN;bPA
16A51;MRO LETTER OO;bO;bRO;bSHI;bTHEA;bEA;bWA;bE;bKO;bLAN;bLA;bHAI;bRI;bTEK
16A60;MRO DIGIT ZERO;bONE;bTWO;bTHREE;bFOUR;bFIVE;bSIX;bSEVEN;bEIGHT;bNINE
16A6E;MRO DANDA;aDOUBLE DANDA;TANGSA LETTER OZ;bOC;bOQ;bOX;bAZ;bAC;bAQ;bAX;bVZ;bVC;bVQ;bVX;bEZ;bEC
16A7E;TANGSA LETTER EQ;bEX;bIZ;bIC;bIQ;bIX;bUZ;bUC;bUQ;bUX;bAWZ;bAWC;bAWQ;bAWX;bUIZ;bUIC;bUIQ;bUIX
16A90;TANGSA LETTER FINAL NG;bLONG UEX;bSHORT UEZ;cAWX;bUEC;bUEZ;bUEQ;bUEX;bUIUZ;bUIUC;bUIUQ;bUIUX
16A9C;TANGSA LETTER MZ;bMC;bMQ;bMX;bKA;bKHA;bGA;bNGA;bSA;bYA;bWA;bPA;bNYA;bPHA;bBA;bMA;bNA;bHA;bLA
16AAF;TANGSA LETTER HTA;bTA;bDA;bRA;bNHA;bSHA;bCA;bTSA;bGHA;bHTTA;bTHA;bXA;bFA;bDHA;bCHA;bZA
16AC0;TANGSA DIGIT ZERO;bONE;bTWO;bTHREE;bFOUR;bFIVE;bSIX;bSEVEN;bEIGHT;bNINE
16AD0;BASSA VAH LETTER ENNI;cKA;cSE;cFA;cMBE;cYIE;cGAH;cDHII;cKPAH;cJO;cHWAH;cWA;cZO;cGBU;cDO;cCE
16AE0;BASSA VAH LETTER UWU;cTO;cBA;cVU;cYEIN;cPA;cWADDA;cA;cO;cOO;cU;cEE;cE;cI
16AF0;BASSA VAH COMBINING HIGH TONE;cLOW TONE;cMID TONE;cLOW-MID TONE;cHIGH-LOW TONE;bFULL STOP
16B00;PAHAWH HMONG VOWEL KEEB;cKEEV;cKIB;cKIV;cKAUB;cKAUV;cKUB;cKUV;cKEB;cKEV;cKAIB;cKAIV;cKOOB
16B0D;PAHAWH HMONG VOWEL KOOV;cKAWB;cKAWV;cKUAB;cKUAV;cKOB;cKOV;cKIAB;cKIAV;cKAB;cKAV;cKWB;cKWV
16B1A;PAHAWH HMONG VOWEL KAAB;cKAAV;bCONSONANT VAU;cNTSAU;cLAU;cHAU;cNLAU;cRAU;cNKAU;cQHAU;cYAU
16B25;PAHAWH HMONG CONSONANT HLAU;cMAU;cCHAU;cNCHAU;cHNAU;cPLHAU;cNTHAU;cNAU;cAU;cXAU;cCAU
16B30;PAHAWH HMONG MARK CIM TUB;dSO;dKES;dKHAV;dSUAM;dHOM;dTAUM;bSIGN VOS THOM;dTSHAB CEEB
16B39;PAHAWH HMONG SIGN CIM CHEEM;cVOS THIAB;dFEEM;cXYEEM NTXIV;dRHO;dTOV;dFAIB;cVOS SEEV
16B41;PAHAWH HMONG SIGN MEEJ SUAB;cVOS NRUA;cIB YAM;cXAUS;cCIM TSOV ROG
16B50;PAHAWH HMONG DIGIT ZERO;cONE;cTWO;cTHREE;cFOUR;cFIVE;cSIX;cSEVEN;cEIGHT;cNINE
16B5B;PAHAWH HMONG NUMBER TENS;cHUNDREDS;cTEN THOUSANDS;cMILLIONS;cHUNDRED MILLIONS;cTEN BILLIONS
16B61;PAHAWH HMONG NUMBER TRILLIONS
16B63;PAHAWH HMONG SIGN VOS LUB;cXYOO;cHLI;cTHIRD-STAGE HLI;cZWJ THAJ;cHNUB;cNQIG;cXIAB;cNTUJ;cAV
16B6D;PAHAWH HMONG SIGN TXHEEJ CEEV;cMEEJ TSEEB;cTAU;cLOS;cMUS;cCIM HAIS LUS NTOG NTOG
16B73;PAHAWH HMONG SIGN CIM CUAM TSHOOJ;dTXWV;eCHWV;dPUB DAWB;dNRES TOS
16B7D;PAHAWH HMONG CLAN SIGN TSHEEJ;dYEEG;dLIS;dLAUJ;dXYOOJ;dKOO;dHAWJ;dMUAS;dTHOJ;dTSAB;dPHAB
16B88;PAHAWH HMONG CLAN SIGN KHAB;dHAM;dVAJ;dFAJ;dYAJ;dTSWB;dKWM;dVWJ
16E40;MEDEFAIDRIN CAPITAL LETTER M;cS;cV;cW;cATIU;cZ;cKP;cP;cT;cG;cF;cI;cK;cA;cJ;cE;cB;cC;cU;cYU
16E54;MEDEFAIDRIN CAPITAL LETTER L;cQ;cHP;cNY;cX;cD;cOE;cN;cR;cO;cAI;cY;aSMALL LETTER M;cS;cV;cW
16E64;MEDEFAIDRIN SMALL LETTER ATIU;cZ;cKP;cP;cT;cG;cF;cI;cK;cA;cJ;cE;cB;cC;cU;cYU;cL;cQ;cHP;cNY
16E78;MEDEFAIDRIN SMALL LETTER X;cD;cOE;cN;cR;cO;cAI;cY;aDIGIT ZERO;bONE;bTWO;bTHREE;bFOUR;bFIVE
16E86;MEDEFAIDRIN DIGIT SIX;bSEVEN;bEIGHT;bNINE;aNUMBER TEN;bELEVEN;bTWELVE;bTHIRTEEN;bFOURTEEN
16E8F;MEDEFAIDRIN NUMBER FIFTEEN;bSIXTEEN;bSEVENTEEN;bEIGHTEEN;bNINETEEN;aDIGIT ONE ALTERNATE FORM
16E95;MEDEFAIDRIN DIGIT TWO ALTERNATE FORM;bTHREE ALTERNATE FORM;aCOMMA;aFULL STOP;aSYMBOL AIVA
16E9A;MEDEFAIDRIN EXCLAMATION OH
16F00;MIAO LETTER PA;bBA;bYI PA;bPLA;bMA;bMHA;bARCHAIC MA;bFA;bVA;bVFA;bTA;bDA;bYI TTA;cTA;bTTA
16F0F;MIAO LETTER DDA;bNA;bNHA;bYI NNA;bARCHAIC NA;bNNA;bNNHA;bLA;bLYA;bLHA;bLHYA;bTLHA;bDLHA
16F1C;MIAO LETTER TLHYA;bDLHYA;bKA;bGA;bYI KA;bQA;bQGA;bNGA;bNGHA;bARCHAIC NGA;bHA;bXA;bGHA;bGHHA
16F2A;MIAO LETTER TSSA;bDZZA;bNYA;bNYHA;bTSHA;bDZHA;bYI TSHA;cDZHA;bREFORMED TSHA;bSHA;bSSA;bZHA
16F36;MIAO LETTER ZSHA;bTSA;bDZA;bYI TSA;bSA;bZA;bZSA;bZZA;bZZSA;bARCHAIC ZZA;bZZYA;bZZSYA;bWA;bAH
16F44;MIAO LETTER HHA;bBRI;bSYI;bDZYI;bTE;bTSE;bRTE
16F4F;MIAO SIGN CONSONANT MODIFIER BAR;aLETTER NASALIZATION;aSIGN ASPIRATION;bREFORMED VOICING
16F53;MIAO SIGN REFORMED ASPIRATION;aVOWEL SIGN A;cAA;cAHH;cAN;cANG;cO;cOO;cWO;cW;cE;cEN;cENG;cOEY
16F61;MIAO VOWEL SIGN I;cIA;cIAN;cIANG;cIO;cIE;cII;cIU;cING;cU;cUA;cUAN;cUANG;cUU;cUEI;cUNG;cY;cYI
16F73;MIAO VOWEL SIGN AE;cAEE;cERR;cROUNDED ERR;cER;cROUNDED ER;cAI;cEI;cAU;cOU;cN;cNG;cUOG;cYUI
16F81;MIAO VOWEL SIGN OG;cOER;cVW;cIG;cEA;cIONG;cUI
16F8F;MIAO TONE RIGHT;bTOP RIGHT;bABOVE;bBELOW;aLETTER TONE-2;bTONE-3;bTONE-4;bTONE-5;bTONE-6
16F98;MIAO LETTER TONE-7;bTONE-8;bREFORMED TONE-1;cTONE-2;cTONE-4;cTONE-5;cTONE-6;cTONE-8
16FE0;TANGUT ITERATION MARK;NUSHU ITERATION MARK;OLD CHINESE HOOK MARK;bITERATION MARK
16FE4;KHITAN SMALL SCRIPT FILLER
16FF0;VIETNAMESE ALTERNATE READING MARK CA;dNHAY
18800;TANGUT COMPONENT-001;aCOMPONENT-002;aCOMPONENT-003;aCOMPONENT-004;aCOMPONENT-005
18805;TANGUT COMPONENT-006;aCOMPONENT-007;aCOMPONENT-008;aCOMPONENT-009;aCOMPONENT-010
1880A;TANGUT COMPONENT-011;aCOMPONENT-012;aCOMPONENT-013;aCOMPONENT-014;aCOMPONENT-015
1880F;TANGUT COMPONENT-016;aCOMPONENT-017;aCOMPONENT-018;aCOMPONENT-019;aCOMPONENT-020
18814;TANGUT COMPONENT-021;aCOMPONENT-022;aCOMPONENT-023;aCOMPONENT-024;aCOMPONENT-025
18819;TANGUT COMPONENT-026;aCOMPONENT-027;aCOMPONENT-028;aCOMPONENT-029;aCOMPONENT-030
1881E;TANGUT COMPONENT-031;aCOMPONENT-032;aCOMPONENT-033;aCOMPONENT-034;aCOMPONENT-035
18823;TANGUT COMPONENT-036;aCOMPONENT-037;aCOMPONENT-038;aCOMPONENT-039;aCOMPONENT-040
18828;TANGUT COMPONENT-041;aCOMPONENT-042;aCOMPONENT-043;aCOMPONENT-044;aCOMPONENT-045
1882D;TANGUT COMPONENT-046;aCOMPONENT-047;aCOMPONENT-048;aCOMPONENT-049;aCOMPONENT-050
18832;TANGUT COMPONENT-051;aCOMPONENT-052;aCOMPONENT-053;aCOMPONENT-054;aCOMPONENT-055
18837;TANGUT COMPONENT-056;aCOMPONENT-057;aCOMPONENT-058;aCOMPONENT-059;aCOMPONENT-060
1883C;TANGUT COMPONENT-061;aCOMPONENT-062;aCOMPONENT-063;aCOMPONENT-064;aCOMPONENT-065
18841;TANGUT COMPONENT-066;aCOMPONENT-067;aCOMPONENT-068;aCOMPONENT-069;aCOMPONENT-070
18846;TANGUT COMPONENT-071;aCOMPONENT-072;aCOMPONENT-073;aCOMPONENT-074;aCOMPONENT-075
1884B;TANGUT COMPONENT-076;aCOMPONENT-077;aCOMPONENT-078;aCOMPONENT-079;aCOMPONENT-080
18850;TANGUT COMPONENT-081;aCOMPONENT-082;aCOMPONENT-083;aCOMPONENT-084;aCOMPONENT-085
18855;TANGUT COMPONENT-086;aCOMPONENT-087;aCOMPONENT-088;aCOMPONENT-089;aCOMPONENT-090
1885A;TANGUT COMPONENT-091;aCOMPONENT-092;aCOMPONENT-093;aCOMPONENT-094;aCOMPONENT-095
1885F;TANGUT COMPONENT-096;aCOMPONENT-097;aCOMPONENT-098;aCOMPONENT-099;aCOMPONENT-100
18864;TANGUT COMPONENT-101;aCOMPONENT-102;aCOMPONENT-103;aCOMPONENT-104;aCOMPONENT-105
18869;TANGUT COMPONENT-106;aCOMPONENT-107;aCOMPONENT-108;aCOMPONENT-109;aCOMPONENT-110
1886E;TANGUT COMPONENT-111;aCOMPONENT-112;aCOMPONENT-113;aCOMPONENT-114;aCOMPONENT-115
18873;TANGUT COMPONENT-116;aCOMPONENT-117;aCOMPONENT-118;aCOMPONENT-119;aCOMPONENT-120
18878;TANGUT COMPONENT-121;aCOMPONENT-122;aCOMPONENT-123;aCOMPONENT-124;aCOMPONENT-125
1887D;TANGUT COMPONENT-126;aCOMPONENT-127;aCOMPONENT-128;aCOMPONENT-129;aCOMPONENT-130
18882;TANGUT COMPONENT-131;aCOMPONENT-132;aCOMPONENT-133;aCOMPONENT-134;aCOMPONENT-135
18887;TANGUT COMPONENT-136;aCOMPONENT-137;aCOMPONENT-138;aCOMPONENT-139;aCOMPONENT-140
1888C;TANGUT COMPONENT-141;aCOMPONENT-142;aCOMPONENT-143;aCOMPONENT-144;aCOMPONENT-145
18891;TANGUT COMPONENT-146;aCOMPONENT-147;aCOMPONENT-148;aCOMPONENT-149;aCOMPONENT-150
18896;TANGUT COMPONENT-151;aCOMPONENT-152;aCOMPONENT-153;aCOMPONENT-154;aCOMPONENT-155
1889B;TANGUT COMPONENT-156;aCOMPONENT-157;aCOMPONENT-158;aCOMPONENT-159;aCOMPONENT-160
188A0;TANGUT COMPONENT-161;aCOMPONENT-162;aCOMPONENT-163;aCOMPONENT-164;aCOMPONENT-165
188A5;TANGUT COMPONENT-166;aCOMPONENT-167;aCOMPONENT-168;aCOMPONENT-169;aCOMPONENT-170
188AA;TANGUT COMPONENT-171;aCOMPONENT-172;aCOMPONENT-173;aCOMPONENT-174;aCOMPONENT-175
188AF;TANGUT COMPONENT-176;aCOMPONENT-177;aCOMPONENT-178;aCOMPONENT-179;aCOMPONENT-180
188B4;TANGUT COMPONENT-181;aCOMPONENT-182;aCOMPONENT-183;aCOMPONENT-184;aCOMPONENT-185
188B9;TANGUT COMPONENT-186;aCOMPONENT-187;aCOMPONENT-188;aCOMPONENT-189;aCOMPONENT-190
188BE;TANGUT COMPONENT-191;aCOMPONENT-192;aCOMPONENT-193;aCOMPONENT-194;aCOMPONENT-195
188C3;TANGUT COMPONENT-196;aCOMPONENT-197;aCOMPONENT-198;aCOMPONENT-199;aCOMPONENT-200
188C8;TANGUT COMPONENT-201;aCOMPONENT-202;aCOMPONENT-203;aCOMPONENT-204;aCOMPONENT-205
188CD;TANGUT COMPONENT-206;aCOMPONENT-207;aCOMPONENT-208;aCOMPONENT-209;aCOMPONENT-210
188D2;TANGUT COMPONENT-211;aCOMPONENT-212;aCOMPONENT-213;aCOMPONENT-214;aCOMPONENT-215
188D7;TANGUT COMPONENT-216;aCOMPONENT-217;aCOMPONENT-218;aCOMPONENT-219;aCOMPONENT-220
188DC;TANGUT COMPONENT-221;aCOMPONENT-222;aCOMPONENT-223;aCOMPONENT-224;aCOMPONENT-225
188E1;TANGUT COMPONENT-226;aCOMPONENT-227;aCOMPONENT-228;aCOMPONENT-229;aCOMPONENT-230
188E6;TANGUT COMPONENT-231;aCOMPONENT-232;aCOMPONENT-233;aCOMPONENT-234;aCOMPONENT-235
188EB;TANGUT COMPONENT-236;aCOMPONENT-237;aCOMPONENT-238;aCOMPONENT-239;aCOMPONENT-240
188F0;TANGUT COMPONENT-241;aCOMPONENT-242;aCOMPONENT-243;aCOMPONENT-244;aCOMPONENT-245
188F5;TANGUT COMPONENT-246;aCOMPONENT-247;aCOMPONENT-248;aCOMPONENT-249;aCOMPONENT-250
188FA;TANGUT COMPONENT-251;aCOMPONENT-252;aCOMPONENT-253;aCOMPONENT-254;aCOMPONENT-255
188FF;TANGUT COMPONENT-256;aCOMPONENT-257;aCOMPONENT-258;aCOMPONENT-259;aCOMPONENT-260
18904;TANGUT COMPONENT-261;aCOMPONENT-262;aCOMPONENT-263;aCOMPONENT-264;aCOMPONENT-265
18909;TANGUT COMPONENT-266;aCOMPONENT-267;aCOMPONENT-268;aCOMPONENT-269;aCOMPONENT-270
1890E;TANGUT COMPONENT-271;aCOMPONENT-272;aCOMPONENT-273;aCOMPONENT-274;aCOMPONENT-275
18913;TANGUT COMPONENT-276;aCOMPONENT-277;aCOMPONENT-278;aCOMPONENT-279;aCOMPONENT-280
18918;TANGUT COMPONENT-281;aCOMPONENT-282;aCOMPONENT-283;aCOMPONENT-284;aCOMPONENT-285
1891D;TANGUT COMPONENT-286;aCOMPONENT-287;aCOMPONENT-288;aCOMPONENT-289;aCOMPONENT-290
18922;TANGUT COMPONENT-291;aCOMPONENT-292;aCOMPONENT-293;aCOMPONENT-294;aCOMPONENT-295
18927;TANGUT COMPONENT-296;aCOMPONENT-297;aCOMPONENT-298;aCOMPONENT-299;aCOMPONENT-300
1892C;TANGUT COMPONENT-301;aCOMPONENT-302;aCOMPONENT-303;aCOMPONENT-304;aCOMPONENT-305
18931;TANGUT COMPONENT-306;aCOMPONENT-307;aCOMPONENT-308;aCOMPONENT-309;aCOMPONENT-310
18936;TANGUT COMPONENT-311;aCOMPONENT-312;aCOMPONENT-313;aCOMPONENT-314;aCOMPONENT-315
1893B;TANGUT COMPONENT-316;aCOMPONENT-317;aCOMPONENT-318;aCOMPONENT-319;aCOMPONENT-320
18940;TANGUT COMPONENT-321;aCOMPONENT-322;aCOMPONENT-323;aCOMPONENT-324;aCOMPONENT-325
18945;TANGUT COMPONENT-326;aCOMPONENT-327;aCOMPONENT-328;aCOMPONENT-329;aCOMPONENT-330
1894A;TANGUT COMPONENT-331;aCOMPONENT-332;aCOMPONENT-333;aCOMPONENT-334;aCOMPONENT-335
1894F;TANGUT COMPONENT-336;aCOMPONENT-337;aCOMPONENT-338;aCOMPONENT-339;aCOMPONENT-340
18954;TANGUT COMPONENT-341;aCOMPONENT-342;aCOMPONENT-343;aCOMPONENT-344;aCOMPONENT-345
18959;TANGUT COMPONENT-346;aCOMPONENT-347;aCOMPONENT-348;aCOMPONENT-349;aCOMPONENT-350
1895E;TANGUT COMPONENT-351;aCOMPONENT-352;aCOMPONENT-353;aCOMPONENT-354;aCOMPONENT-355
18963;TANGUT COMPONENT-356;aCOMPONENT-357;aCOMPONENT-358;aCOMPONENT-359;aCOMPONENT-360
18968;TANGUT COMPONENT-361;aCOMPONENT-362;aCOMPONENT-363;aCOMPONENT-364;aCOMPONENT-365
1896D;TANGUT COMPONENT-366;aCOMPONENT-367;aCOMPONENT-368;aCOMPONENT-369;aCOMPONENT-370
18972;TANGUT COMPONENT-371;aCOMPONENT-372;aCOMPONENT-373;aCOMPONENT-374;aCOMPONENT-375
18977;TANGUT COMPONENT-376;aCOMPONENT-377;aCOMPONENT-378;aCOMPONENT-379;aCOMPONENT-380
1897C;TANGUT COMPONENT-381;aCOMPONENT-382;aCOMPONENT-383;aCOMPONENT-384;aCOMPONENT-385
18981;TANGUT COMPONENT-386;aCOMPONENT-387;aCOMPONENT-388;aCOMPONENT-389;aCOMPONENT-390
18986;TANGUT COMPONENT-391;aCOMPONENT-392;aCOMPONENT-393;aCOMPONENT-394;aCOMPONENT-395
1898B;TANGUT COMPONENT-396;aCOMPONENT-397;aCOMPONENT-398;aCOMPONENT-399;aCOMPONENT-400
18990;TANGUT COMPONENT-401;aCOMPONENT-402;aCOMPONENT-403;aCOMPONENT-404;aCOMPONENT-405
18995;TANGUT COMPONENT-406;aCOMPONENT-407;aCOMPONENT-408;aCOMPONENT-409;aCOMPONENT-410
1899A;TANGUT COMPONENT-411;aCOMPONENT-412;aCOMPONENT-413;aCOMPONENT-414;aCOMPONENT-415
1899F;TANGUT COMPONENT-416;aCOMPONENT-417;aCOMPONENT-418;aCOMPONENT-419;aCOMPONENT-420
189A4;TANGUT COMPONENT-421;aCOMPONENT-422;aCOMPONENT-423;aCOMPONENT-424;aCOMPONENT-425
189A9;TANGUT COMPONENT-426;aCOMPONENT-427;aCOMPONENT-428;aCOMPONENT-429;aCOMPONENT-430
189AE;TANGUT COMPONENT-431;aCOMPONENT-432;aCOMPONENT-433;aCOMPONENT-434;aCOMPONENT-435
189B3;TANGUT COMPONENT-436;aCOMPONENT-437;aCOMPONENT-438;aCOMPONENT-439;aCOMPONENT-440
189B8;TANGUT COMPONENT-441;aCOMPONENT-442;aCOMPONENT-443;aCOMPONENT-444;aCOMPONENT-445
189BD;TANGUT COMPONENT-446;aCOMPONENT-447;aCOMPONENT-448;aCOMPONENT-449;aCOMPONENT-450
189C2;TANGUT COMPONENT-451;aCOMPONENT-452;aCOMPONENT-453;aCOMPONENT-454;aCOMPONENT-455
189C7;TANGUT COMPONENT-456;aCOMPONENT-457;aCOMPONENT-458;aCOMPONENT-459;aCOMPONENT-460
189CC;TANGUT COMPONENT-461;aCOMPONENT-462;aCOMPONENT-463;aCOMPONENT-464;aCOMPONENT-465
189D1;TANGUT COMPONENT-466;aCOMPONENT-467;aCOMPONENT-468;aCOMPONENT-469;aCOMPONENT-470
189D6;TANGUT COMPONENT-471;aCOMPONENT-472;aCOMPONENT-473;aCOMPONENT-474;aCOMPONENT-475
189DB;TANGUT COMPONENT-476;aCOMPONENT-477;aCOMPONENT-478;aCOMPONENT-479;aCOMPONENT-480
189E0;TANGUT COMPONENT-481;aCOMPONENT-482;aCOMPONENT-483;aCOMPONENT-484;aCOMPONENT-485
189E5;TANGUT COMPONENT-486;aCOMPONENT-487;aCOMPONENT-488;aCOMPONENT-489;aCOMPONENT-490
189EA;TANGUT COMPONENT-491;aCOMPONENT-492;aCOMPONENT-493;aCOMPONENT-494;aCOMPONENT-495
189EF;TANGUT COMPONENT-496;aCOMPONENT-497;aCOMPONENT-498;aCOMPONENT-499;aCOMPONENT-500
189F4;TANGUT COMPONENT-501;aCOMPONENT-502;aCOMPONENT-503;aCOMPONENT-504;aCOMPONENT-505
189F9;TANGUT COMPONENT-506;aCOMPONENT-507;aCOMPONENT-508;aCOMPONENT-509;aCOMPONENT-510
189FE;TANGUT COMPONENT-511;aCOMPONENT-512;aCOMPONENT-513;aCOMPONENT-514;aCOMPONENT-515
18A03;TANGUT COMPONENT-516;aCOMPONENT-517;aCOMPONENT-518;aCOMPONENT-519;aCOMPONENT-520
18A08;TANGUT COMPONENT-521;aCOMPONENT-522;aCOMPONENT-523;aCOMPONENT-524;aCOMPONENT-525
18A0D;TANGUT COMPONENT-526;aCOMPONENT-527;aCOMPONENT-528;aCOMPONENT-529;aCOMPONENT-530
18A12;TANGUT COMPONENT-531;aCOMPONENT-532;aCOMPONENT-533;aCOMPONENT-534;aCOMPONENT-535
18A17;TANGUT COMPONENT-536;aCOMPONENT-537;aCOMPONENT-538;aCOMPONENT-539;aCOMPONENT-540
18A1C;TANGUT COMPONENT-541;aCOMPONENT-542;aCOMPONENT-543;aCOMPONENT-544;aCOMPONENT-545
18A21;TANGUT COMPONENT-546;aCOMPONENT-547;aCOMPONENT-548;aCOMPONENT-549;aCOMPONENT-550
18A26;TANGUT COMPONENT-551;aCOMPONENT-552;aCOMPONENT-553;aCOMPONENT-554;aCOMPONENT-555
18A2B;TANGUT COMPONENT-556;aCOMPONENT-557;aCOMPONENT-558;aCOMPONENT-559;aCOMPONENT-560
18A30;TANGUT COMPONENT-561;aCOMPONENT-562;aCOMPONENT-563;aCOMPONENT-564;aCOMPONENT-565
18A35;TANGUT COMPONENT-566;aCOMPONENT-567;aCOMPONENT-568;aCOMPONENT-569;aCOMPONENT-570
18A3A;TANGUT COMPONENT-571;aCOMPONENT-572;aCOMPONENT-573;aCOMPONENT-574;aCOMPONENT-575
18A3F;TANGUT COMPONENT-576;aCOMPONENT-577;aCOMPONENT-578;aCOMPONENT-579;aCOMPONENT-580
18A44;TANGUT COMPONENT-581;aCOMPONENT-582;aCOMPONENT-583;aCOMPONENT-584;aCOMPONENT-585
18A49;TANGUT COMPONENT-586;aCOMPONENT-587;aCOMPONENT-588;aCOMPONENT-589;aCOMPONENT-590
18A4E;TANGUT COMPONENT-591;aCOMPONENT-592;aCOMPONENT-593;aCOMPONENT-594;aCOMPONENT-595
18A53;TANGUT COMPONENT-596;aCOMPONENT-597;aCOMPONENT-598;aCOMPONENT-599;aCOMPONENT-600
18A58;TANGUT COMPONENT-601;aCOMPONENT-602;aCOMPONENT-603;aCOMPONENT-604;aCOMPONENT-605
18A5D;TANGUT COMPONENT-606;aCOMPONENT-607;aCOMPONENT-608;aCOMPONENT-609;aCOMPONENT-610
18A62;TANGUT COMPONENT-611;aCOMPONENT-612;aCOMPONENT-613;aCOMPONENT-614;aCOMPONENT-615
18A67;TANGUT COMPONENT-616;aCOMPONENT-617;aCOMPONENT-618;aCOMPONENT-619;aCOMPONENT-620
18A6C;TANGUT COMPONENT-621;aCOMPONENT-622;aCOMPONENT-623;aCOMPONENT-624;aCOMPONENT-625
18A71;TANGUT COMPONENT-626;aCOMPONENT-627;aCOMPONENT-628;aCOMPONENT-629;aCOMPONENT-630
18A76;TANGUT COMPONENT-631;aCOMPONENT-632;aCOMPONENT-633;aCOMPONENT-634;aCOMPONENT-635
18A7B;TANGUT COMPONENT-636;aCOMPONENT-637;aCOMPONENT-638;aCOMPONENT-639;aCOMPONENT-640
18A80;TANGUT COMPONENT-641;aCOMPONENT-642;aCOMPONENT-643;aCOMPONENT-644;aCOMPONENT-645
18A85;TANGUT COMPONENT-646;aCOMPONENT-647;aCOMPONENT-648;aCOMPONENT-649;aCOMPONENT-650
18A8A;TANGUT COMPONENT-651;aCOMPONENT-652;aCOMPONENT-653;aCOMPONENT-654;aCOMPONENT-655
18A8F;TANGUT COMPONENT-656;aCOMPONENT-657;aCOMPONENT-658;aCOMPONENT-659;aCOMPONENT-660
18A94;TANGUT COMPONENT-661;aCOMPONENT-662;aCOMPONENT-663;aCOMPONENT-664;aCOMPONENT-665
18A99;TANGUT COMPONENT-666;aCOMPONENT-667;aCOMPONENT-668;aCOMPONENT-669;aCOMPONENT-670
18A9E;TANGUT COMPONENT-671;aCOMPONENT-672;aCOMPONENT-673;aCOMPONENT-674;aCOMPONENT-675
18AA3;TANGUT COMPONENT-676;aCOMPONENT-677;aCOMPONENT-678;aCOMPONENT-679;aCOMPONENT-680
18AA8;TANGUT COMPONENT-681;aCOMPONENT-682;aCOMPONENT-683;aCOMPONENT-684;aCOMPONENT-685
18AAD;TANGUT COMPONENT-686;aCOMPONENT-687;aCOMPONENT-688;aCOMPONENT-689;aCOMPONENT-690
18AB2;TANGUT COMPONENT-691;aCOMPONENT-692;aCOMPONENT-693;aCOMPONENT-694;aCOMPONENT-695
18AB7;TANGUT COMPONENT-696;aCOMPONENT-697;aCOMPONENT-698;aCOMPONENT-699;aCOMPONENT-700
18ABC;TANGUT COMPONENT-701;aCOMPONENT-702;aCOMPONENT-703;aCOMPONENT-704;aCOMPONENT-705
18AC1;TANGUT COMPONENT-706;aCOMPONENT-707;aCOMPONENT-708;aCOMPONENT-709;aCOMPONENT-710
18AC6;TANGUT COMPONENT-711;aCOMPONENT-712;aCOMPONENT-713;aCOMPONENT-714;aCOMPONENT-715
18ACB;TANGUT COMPONENT-716;aCOMPONENT-717;aCOMPONENT-718;aCOMPONENT-719;aCOMPONENT-720
18AD0;TANGUT COMPONENT-721;aCOMPONENT-722;aCOMPONENT-723;aCOMPONENT-724;aCOMPONENT-725
18AD5;TANGUT COMPONENT-726;aCOMPONENT-727;aCOMPONENT-728;aCOMPONENT-729;aCOMPONENT-730
18ADA;TANGUT COMPONENT-731;aCOMPONENT-732;aCOMPONENT-733;aCOMPONENT-734;aCOMPONENT-735
18ADF;TANGUT COMPONENT-736;aCOMPONENT-737;aCOMPONENT-738;aCOMPONENT-739;aCOMPONENT-740
18AE4;TANGUT COMPONENT-741;aCOMPONENT-742;aCOMPONENT-743;aCOMPONENT-744;aCOMPONENT-745
18AE9;TANGUT COMPONENT-746;aCOMPONENT-747;aCOMPONENT-748;aCOMPONENT-749;aCOMPONENT-750
18AEE;TANGUT COMPONENT-751;aCOMPONENT-752;aCOMPONENT-753;aCOMPONENT-754;aCOMPONENT-755
18AF3;TANGUT COMPONENT-756;aCOMPONENT-757;aCOMPONENT-758;aCOMPONENT-759;aCOMPONENT-760
18AF8;TANGUT COMPONENT-761;aCOMPONENT-762;aCOMPONENT-763;aCOMPONENT-764;aCOMPONENT-765
18AFD;TANGUT COMPONENT-766;aCOMPONENT-767;aCOMPONENT-768
1AFF0;KATAKANA LETTER MINNAN TONE-2;cTONE-3;cTONE-4;cTONE-5
1AFF5;KATAKANA LETTER MINNAN TONE-7;cTONE-8;cNASALIZED TONE-1;dTONE-2;dTONE-3;dTONE-4;dTONE-5
1AFFD;KATAKANA LETTER MINNAN NASALIZED TONE-7;dTONE-8
1B000;KATAKANA LETTER ARCHAIC E;HIRAGANA LETTER ARCHAIC YE;HENTAIGANA LETTER A-1;bA-2;bA-3;bA-WO
1B006;HENTAIGANA LETTER I-1;bI-2;bI-3;bI-4;bU-1;bU-2;bU-3;bU-4;bU-5;bE-2;bE-3;bE-4;bE-5;bE-6;bO-1
1B015;HENTAIGANA LETTER O-2;bO-3;bKA-1;bKA-2;bKA-3;bKA-4;bKA-5;bKA-6;bKA-7;bKA-8;bKA-9;bKA-10
1B021;HENTAIGANA LETTER KA-11;bKA-KE;bKI-1;bKI-2;bKI-3;bKI-4;bKI-5;bKI-6;bKI-7;bKI-8;bKU-1;bKU-2
1B02D;HENTAIGANA LETTER KU-3;bKU-4;bKU-5;bKU-6;bKU-7;bKE-1;bKE-2;bKE-3;bKE-4;bKE-5;bKE-6;bKO-1
1B039;HENTAIGANA LETTER KO-2;bKO-3;bKO-KI;bSA-1;bSA-2;bSA-3;bSA-4;bSA-5;bSA-6;bSA-7;bSA-8;bSI-1
1B045;HENTAIGANA LETTER SI-2;bSI-3;bSI-4;bSI-5;bSI-6;bSU-1;bSU-2;bSU-3;bSU-4;bSU-5;bSU-6;bSU-7
1B051;HENTAIGANA LETTER SU-8;bSE-1;bSE-2;bSE-3;bSE-4;bSE-5;bSO-1;bSO-2;bSO-3;bSO-4;bSO-5;bSO-6
1B05D;HENTAIGANA LETTER SO-7;bTA-1;bTA-2;bTA-3;bTA-4;bTI-1;bTI-2;bTI-3;bTI-4;bTI-5;bTI-6;bTI-7
1B069;HENTAIGANA LETTER TU-1;bTU-2;bTU-3;bTU-4;bTU-TO;bTE-1;bTE-2;bTE-3;bTE-4;bTE-5;bTE-6;bTE-7
1B075;HENTAIGANA LETTER TE-8;bTE-9;bTO-1;bTO-2;bTO-3;bTO-4;bTO-5;bTO-6;bTO-RA;bNA-1;bNA-2;bNA-3
1B081;HENTAIGANA LETTER NA-4;bNA-5;bNA-6;bNA-7;bNA-8;bNA-9;bNI-1;bNI-2;bNI-3;bNI-4;bNI-5;bNI-6
1B08D;HENTAIGANA LETTER NI-7;bNI-TE;bNU-1;bNU-2;bNU-3;bNE-1;bNE-2;bNE-3;bNE-4;bNE-5;bNE-6;bNE-KO
1B099;HENTAIGANA LETTER NO-1;bNO-2;bNO-3;bNO-4;bNO-5;bHA-1;bHA-2;bHA-3;bHA-4;bHA-5;bHA-6;bHA-7
1B0A5;HENTAIGANA LETTER HA-8;bHA-9;bHA-10;bHA-11;bHI-1;bHI-2;bHI-3;bHI-4;bHI-5;bHI-6;bHI-7;bHU-1
1B0B1;HENTAIGANA LETTER HU-2;bHU-3;bHE-1;bHE-2;bHE-3;bHE-4;bHE-5;bHE-6;bHE-7;bHO-1;bHO-2;bHO-3
1B0BD;HENTAIGANA LETTER HO-4;bHO-5;bHO-6;bHO-7;bHO-8;bMA-1;bMA-2;bMA-3;bMA-4;bMA-5;bMA-6;bMA-7
1B0C9;HENTAIGANA LETTER MI-1;bMI-2;bMI-3;bMI-4;bMI-5;bMI-6;bMI-7;bMU-1;bMU-2;bMU-3;bMU-4;bME-1
1B0D5;HENTAIGANA LETTER ME-2;bME-MA;bMO-1;bMO-2;bMO-3;bMO-4;bMO-5;bMO-6;bYA-1;bYA-2;bYA-3;bYA-4
1B0E1;HENTAIGANA LETTER YA-5;bYA-YO;bYU-1;bYU-2;bYU-3;bYU-4;bYO-1;bYO-2;bYO-3;bYO-4;bYO-5;bYO-6
1B0ED;HENTAIGANA LETTER RA-1;bRA-2;bRA-3;bRA-4;bRI-1;bRI-2;bRI-3;bRI-4;bRI-5;bRI-6;bRI-7;bRU-1
1B0F9;HENTAIGANA LETTER RU-2;bRU-3;bRU-4;bRU-5;bRU-6;bRE-1;bRE-2;bRE-3;bRE-4;bRO-1;bRO-2;bRO-3
1B105;HENTAIGANA LETTER RO-4;bRO-5;bRO-6;bWA-1;bWA-2;bWA-3;bWA-4;bWA-5;bWI-1;bWI-2;bWI-3;bWI-4
1B111;HENTAIGANA LETTER WI-5;bWE-1;bWE-2;bWE-3;bWE-4;bWO-1;bWO-2;bWO-3;bWO-4;bWO-5;bWO-6;bWO-7
1B11D;HENTAIGANA LETTER N-MU-MO-1;bN-MU-MO-2;HIRAGANA LETTER ARCHAIC WU;KATAKANA LETTER ARCHAIC YI
1B121;KATAKANA LETTER ARCHAIC YE;cWU
1B150;HIRAGANA LETTER SMALL WI;cWE;cWO
1B164;KATAKANA LETTER SMALL WI;cWE;cWO;cN
1BC00;DUPLOYAN LETTER H;bX;bP;bT;bF;bK;bL;bB;bD;bV;bG;bR;bP N;bD S;bF N;bK M;bR S;bTH;bSLOAN DH
1BC13;DUPLOYAN LETTER DH;bKK;bSLOAN J;bHL;bLH;bRH;bM;bN;bJ;bS;bM N;bN M;bJ M;bS J;bM WITH DOT
1BC22;DUPLOYAN LETTER N WITH DOT;bJ WITH DOT;dDOTS INSIDE AND ABOVE;bS WITH DOT;eBELOW;bM S;bN S
1BC29;DUPLOYAN LETTER J S;bS S;bM N S;bN M S;bJ M S;bS J S;bJ S WITH DOT;cN;dS;bS T;dR;cP;dR;bT S
1BC37;DUPLOYAN LETTER T R S;bW;bWH;bW R;bS N;cM;bK R S;bG R S;bS K;dR;bA;bSLOAN OW;bOA;bO;bAOU;bI
1BC47;DUPLOYAN LETTER E;bIE;bSHORT I;bUI;bEE;bSLOAN EH;bROMANIAN I;bSLOAN EE;bLONG I;bYE;bU;bEU
1BC53;DUPLOYAN LETTER XW;bU N;bLONG U;bROMANIAN U;bUH;bSLOAN U;bOOH;bOW;bOU;bWA;bWO;bWI;bWEI;bWOW
1BC61;DUPLOYAN LETTER NASAL U;cO;cI;cA;bPERNIN AN;cAM;bSLOAN EN;cAN;cON;bVOCALIC M
1BC70;DUPLOYAN AFFIX LEFT HORIZONTAL SECANT;bMID HORIZONTAL SECANT;bRIGHT HORIZONTAL SECANT
1BC73;DUPLOYAN AFFIX LOW VERTICAL SECANT;bMID VERTICAL SECANT;bHIGH VERTICAL SECANT
1BC76;DUPLOYAN AFFIX ATTACHED SECANT;cLEFT-TO-RIGHT SECANT;cTANGENT;cTAIL;cE HOOK;cI HOOK
1BC7C;DUPLOYAN AFFIX ATTACHED TANGENT HOOK
1BC80;DUPLOYAN AFFIX HIGH ACUTE;cTIGHT ACUTE;cGRAVE;cLONG GRAVE;cDOT;cCIRCLE;cLINE;cWAVE;cVERTICAL
1BC90;DUPLOYAN AFFIX LOW ACUTE;cTIGHT ACUTE;cGRAVE;cLONG GRAVE;cDOT;cCIRCLE;cLINE;cWAVE;cVERTICAL
1BC99;DUPLOYAN AFFIX LOW ARROW
1BC9C;DUPLOYAN SIGN O WITH CROSS;aTHICK LETTER SELECTOR;aDOUBLE MARK
1BC9F;DUPLOYAN PUNCTUATION CHINOOK FULL STOP;SHORTHAND FORMAT LETTER OVERLAP;bCONTINUING OVERLAP
1BCA2;SHORTHAND FORMAT DOWN STEP;bUP STEP
1CF00;ZNAMENNY COMBINING MARK GORAZDO NIZKO S KRYZHEM ON LEFT;cNIZKO S KRYZHEM ON LEFT
1CF02;ZNAMENNY COMBINING MARK TSATA ON LEFT;cGORAZDO NIZKO ON LEFT;cNIZKO ON LEFT;cSREDNE ON LEFT
1CF06;ZNAMENNY COMBINING MARK MALO POVYSHE ON LEFT;cPOVYSHE ON LEFT;cVYSOKO ON LEFT
1CF09;ZNAMENNY COMBINING MARK MALO POVYSHE S KHOKHLOM ON LEFT;cPOVYSHE S KHOKHLOM ON LEFT
1CF0B;ZNAMENNY COMBINING MARK VYSOKO S KHOKHLOM ON LEFT;cGORAZDO NIZKO S KRYZHEM ON RIGHT
1CF0D;ZNAMENNY COMBINING MARK NIZKO S KRYZHEM ON RIGHT;cTSATA ON RIGHT;cGORAZDO NIZKO ON RIGHT
1CF10;ZNAMENNY COMBINING MARK NIZKO ON RIGHT;cSREDNE ON RIGHT;cMALO POVYSHE ON RIGHT
1CF13;ZNAMENNY COMBINING MARK POVYSHE ON RIGHT;cVYSOKO ON RIGHT;cMALO POVYSHE S KHOKHLOM ON RIGHT
1CF16;ZNAMENNY COMBINING MARK POVYSHE S KHOKHLOM ON RIGHT;cVYSOKO S KHOKHLOM ON RIGHT
1CF18;ZNAMENNY COMBINING MARK TSATA S KRYZHEM;cMALO POVYSHE S KRYZHEM;cSTRANNO MALO POVYSHE
1CF1B;ZNAMENNY COMBINING MARK POVYSHE S KRYZHEM;dSTRANNO;cVYSOKO S KRYZHEM;cMALO POVYSHE STRANNO
1CF1F;ZNAMENNY COMBINING MARK GORAZDO VYSOKO;cZELO;cON;cRAVNO;cTIKHAYA;cBORZAYA;cUDARKA;cPODVERTKA
1CF27;ZNAMENNY COMBINING MARK LOMKA;cKUPNAYA;cKACHKA;cZEVOK;cSKOBA;cRAZSEKA;cKRYZH ON LEFT
1CF30;ZNAMENNY COMBINING TONAL RANGE MARK MRACHNO;eSVETLO;eTRESVETLO;bMARK ZADERZHKA
1CF34;ZNAMENNY COMBINING MARK DEMESTVENNY ZADERZHKA;cOTSECHKA;cPODCHASHIE;dWITH VERTICAL STROKE
1CF38;ZNAMENNY COMBINING MARK CHASHKA;dPOLNAYA;cOBLACHKO;cSOROCHYA NOZHKA;cTOCHKA;cDVOETOCHIE
1CF3E;ZNAMENNY COMBINING ATTACHING VERTICAL OMET;bMARK CURVED OMET;cKRYZH
1CF41;ZNAMENNY COMBINING LOWER TONAL RANGE INDICATOR;aPRIZNAK MODIFIER LEVEL-2;cLEVEL-3
1CF44;ZNAMENNY PRIZNAK MODIFIER DIRECTION FLIP;cKRYZH;cROG
1CF50;ZNAMENNY NEUME KRYUK;cTIKHY;bPARAKLIT;bDVA V CHELNU;bKLYUCH;bZANOZHEK;bSTOPITSA;cS OCHKOM
1CF58;ZNAMENNY NEUME PEREVODKA;cNEPOSTOYANNAYA;bSTOPITSA WITH SOROCHYA NOZHKA;bCHELYUSTKA;bPALKA
1CF5D;ZNAMENNY NEUME ZAPYATAYA;bGOLUBCHIK BORZY;cTIKHY;cMRACHNY;cSVETLY;cTRESVETLY
1CF63;ZNAMENNY NEUME VRAKHIYA PROSTAYA;cMRACHNAYA;cSVETLAYA;cTRESVETLAYA;cKLYUCHEVAYA PROSTAYA
1CF68;ZNAMENNY NEUME VRAKHIYA KLYUCHEVAYA MRACHNAYA;dSVETLAYA;dTRESVETLAYA;bDOUBLE ZAPYATAYA
1CF6C;ZNAMENNY NEUME REVERSED CHELYUSTKA;bDERBITSA;bKHAMILO;bCHASHKA;bPODCHASHIE
1CF71;ZNAMENNY NEUME SKAMEYTSA MRACHNAYA;cSVETLAYA;cTRESVETLAYA;cTIKHAYA;bDEMESTVENNY KLYUCH
1CF76;ZNAMENNY NEUME SKAMEYTSA KLYUCHEVAYA SVETLAYA;cKLYUCHENEPOSTOYANNAYA;cKLYUCHEVAYA TIKHAYA
1CF79;ZNAMENNY NEUME SKAMEYTSA DVOECHELNAYA PROSTAYA;dSVETLAYA;dNEPOSTOYANNAYA;dKLYUCHEVAYA
1CF7D;ZNAMENNY NEUME SLOZHITIE;cS ZAPYATOY;cZAKRYTOE;cS KRYZHEM;bKRYZH;bROG;bFITA;bKOBYLA;bZMEYTSA
1CF86;ZNAMENNY NEUME STATYA;cS ZAPYATOY;dKRYZHEM;dZAPYATOY I KRYZHEM;dKRYZHEM I ZAPYATOY
1CF8B;ZNAMENNY NEUME STATYA ZAKRYTAYA;dS ZAPYATOY;cS ROGOM;dDVUMYA ZAPYATYMI
1CF8F;ZNAMENNY NEUME STATYA S ZAPYATOY I PODCHASHIEM;bPOLKULIZMY;bSTATYA NEPOSTOYANNAYA
1CF92;ZNAMENNY NEUME STRELA PROSTAYA;cMRACHNOTIKHAYA;cKRYZHEVAYA;cPOLUPOVODNAYA;cPOVODNAYA
1CF97;ZNAMENNY NEUME STRELA NEPOSTOYANNAYA;cKLYUCHEPOVODNAYA;cKLYUCHENEPOSTOYANNAYA
1CF9A;ZNAMENNY NEUME STRELA TIKHAYA PUTNAYA;cDVOECHELNAYA;cDVOECHELNOKRYZHEVAYA
1CF9D;ZNAMENNY NEUME STRELA DVOECHELNOPOVODNAYA;cDVOECHELNAYA KLYUCHEVAYA
1CF9F;ZNAMENNY NEUME STRELA DVOECHELNOPOVODNAYA KLYUCHEVAYA;cGROMNAYA WITH SINGLE ZAPYATAYA
1CFA1;ZNAMENNY NEUME STRELA GROMOPOVODNAYA WITH SINGLE ZAPYATAYA;cGROMNAYA;cGROMOPOVODNAYA
1CFA4;ZNAMENNY NEUME STRELA GROMOPOVODNAYA WITH DOUBLE ZAPYATAYA;cGROMOKRYZHEVAYA;dPOVODNAYA
1CFA7;ZNAMENNY NEUME MECHIK;cPOVODNY;cKLYUCHEVOY;cKLYUCHEPOVODNY;cKLYUCHENEPOSTOYANNY
1CFAC;ZNAMENNY NEUME STRELA TRYASOGLASNAYA;cTRYASOPOVODNAYA;cTRYASOSTRELNAYA;bOSOKA;cSVETLAYA
1CFB1;ZNAMENNY NEUME OSOKA TRESVETLAYA;cKRYUKOVAYA SVETLAYA;cKLYUCHEVAYA SVETLAYA;dNEPOSTOYANNAYA
1CFB5;ZNAMENNY NEUME STRELA KRYUKOVAYA;dPOVODNAYA;dGROMNAYA WITH SINGLE ZAPYATAYA
1CFB8;ZNAMENNY NEUME STRELA KRYUKOVAYA GROMOPOVODNAYA WITH SINGLE ZAPYATAYA;dGROMNAYA
1CFBA;ZNAMENNY NEUME STRELA KRYUKOVAYA GROMOPOVODNAYA;eWITH DOUBLE ZAPYATAYA;dGROMOKRYZHEVAYA
1CFBD;ZNAMENNY NEUME STRELA KRYUKOVAYA GROMOKRYZHEVAYA POVODNAYA;dTRYASKA;bKUFISMA;bOBLAKO;bDUDA
1CFC2;ZNAMENNY NEUME NEMKA;bPAUK"

end RecordSchema.Text.CharacterName
